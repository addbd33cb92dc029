import TypedClient.Proofs.Codec.Faithful

/-!
What a method gives. Of the responses of an operation only the schemas under `200` and `default`
count, and they count in this order. The second is left out when it has the texts of the first, and
takes no import with it.
-/

set_option autoImplicit false

namespace TypedClient

open Api (Schema Response)

theorem Entries.mem_of_get? {κ α : Type} [DecidableEq κ] {k : κ} {v : α} {es : List (κ × α)}
    (h : get? k es = some v) : (k, v) ∈ es := by
  induction es with
  | nil => cases h
  | cons e es ih =>
    rw [get?] at h
    split at h
    · next he =>
      cases h
      exact he ▸ List.mem_cons_self
    · exact List.mem_cons_of_mem _ (ih h)

theorem OrderedMap.get?_eq_some {α : Type} {m : OrderedMap α} {k : String} {v : α} :
    m.get? k = some v ↔ (k, v) ∈ m.entries :=
  ⟨Entries.mem_of_get?, Entries.get?_of_mem m.distinct⟩

namespace Code

/-- The schema of the response under the code, if there is one. -/
def schemaAt (rs : OrderedMap Response) (code : String) : Option Schema :=
  (rs.get? code).bind Response.schema

/-- The schemas under the codes that count, each with its code, in the order of the map. -/
def successSchemas (rs : OrderedMap Response) : List (String × Schema) :=
  rs.entries.filterMap fun e =>
    if e.1 ∈ successCodes then e.2.schema.map fun x => (e.1, x) else none

variable {s : Scope} {rs rs' : OrderedMap Response} {x y : Schema} {code : String}

theorem mem_successSchemas (h : code ∈ successCodes) :
    (code, x) ∈ successSchemas rs ↔ schemaAt rs code = some x := by
  simp only [successSchemas, schemaAt, List.mem_filterMap, Option.bind_eq_some_iff,
    OrderedMap.get?_eq_some]
  constructor
  · rintro ⟨e, he, hs⟩
    split at hs
    · obtain ⟨y, hy, hp⟩ := Option.map_eq_some_iff.1 hs
      cases hp
      exact ⟨e.2, he, hy⟩
    · cases hs
  · rintro ⟨r, hr, hx⟩
    exact ⟨(code, r), hr, by rw [if_pos h, hx]; rfl⟩

/-- Whatever the other entries are, and in whatever order these stand. -/
theorem schemaAt_perm (h : (successSchemas rs').Perm (successSchemas rs))
    (hc : code ∈ successCodes) : schemaAt rs' code = schemaAt rs code := by
  refine Option.ext fun x => ?_
  rw [← mem_successSchemas hc, ← mem_successSchemas hc, h.mem_iff]

theorem responseSchemas_eq (rs : OrderedMap Response) :
    responseSchemas rs = (schemaAt rs "200").toList ++ (schemaAt rs "default").toList := by
  change successCodes.filterMap (schemaAt rs) = _
  simp only [successCodes, List.filterMap_cons, List.filterMap_nil]
  cases schemaAt rs "200" <;> cases schemaAt rs "default" <;> rfl

theorem responseSchemas_perm (h : (successSchemas rs').Perm (successSchemas rs)) :
    responseSchemas rs' = responseSchemas rs := by
  rw [responseSchemas_eq, responseSchemas_eq, schemaAt_perm h (by decide),
    schemaAt_perm h (by decide)]

theorem responses_congr (h : responseSchemas rs' = responseSchemas rs) :
    responses s rs' = responses s rs := by
  rw [responses, responses, h]

theorem responses_nil (h : responseSchemas rs = []) : responses s rs = void := by
  simp [responses, h, distinctShapes]

theorem responses_singleton (h : responseSchemas rs = [x]) :
    responses s rs = (schema s x).withoutReferences := by
  simp [responses, h, distinctShapes]

theorem responses_alike (h : responseSchemas rs = [x, y])
    (hs : (schema s x).sameShape (schema s y) = true) :
    responses s rs = (schema s x).withoutReferences := by
  simp [responses, h, distinctShapes, hs]

theorem responses_pair (h : responseSchemas rs = [x, y])
    (hs : (schema s x).sameShape (schema s y) = false) :
    responses s rs =
      ⟨(schema s x).type ++ " | " ++ (schema s y).type,
        "t.union([" ++ ((schema s x).codec ++ ", " ++ (schema s y).codec) ++ "])",
        (schema s x).imports ++ (schema s y).imports, .empty⟩ := by
  have hd : distinctShapes ((responseSchemas rs).map (schema s)) = [schema s x, schema s y] := by
    simp [h, distinctShapes, hs]
  have hi : (schema s x).imports ++ [] ++ (schema s y).imports =
      (schema s x).imports ++ (schema s y).imports := by
    rw [List.append_nil]
  rw [responses, hd, ← hi]
  rfl

/-- A method gives the union of what the schemas under `200` and `default` describe, which nothing
else in the map changes: nothing without a schema, what the one describes when there is only one or
the two have the same texts, and else one or the other, that under `200` first. A schema that is
left out has the imports of the one that stays. -/
theorem responses_union (s : Scope) (rs : OrderedMap Response) :
    (∀ rs', (successSchemas rs').Perm (successSchemas rs) → responses s rs' = responses s rs) ∧
    (schemaAt rs "200" = none → schemaAt rs "default" = none →
      responses s rs = ⟨"void", "t.void", [], .empty⟩) ∧
    (∀ x, (schemaAt rs "200" = some x ∧ schemaAt rs "default" = none) ∨
        (schemaAt rs "200" = none ∧ schemaAt rs "default" = some x) →
      responses s rs = ⟨(schema s x).type, (schema s x).codec, (schema s x).imports, .empty⟩) ∧
    ∀ x y, schemaAt rs "200" = some x → schemaAt rs "default" = some y →
      ((schema s x).sameShape (schema s y) = true →
        responses s rs = ⟨(schema s x).type, (schema s x).codec, (schema s x).imports, .empty⟩ ∧
        (schema s y).imports = (schema s x).imports) ∧
      ((schema s x).sameShape (schema s y) = false →
        responses s rs =
          ⟨(schema s x).type ++ " | " ++ (schema s y).type,
            "t.union([" ++ ((schema s x).codec ++ ", " ++ (schema s y).codec) ++ "])",
            (schema s x).imports ++ (schema s y).imports, .empty⟩) := by
  have he := responseSchemas_eq rs
  refine ⟨fun rs' h => responses_congr (responseSchemas_perm h), fun ho hd => ?_, fun x h => ?_,
    fun x y ho hd => ?_⟩
  · rw [ho, hd] at he
    exact responses_nil he
  · rcases h with ⟨ho, hd⟩ | ⟨ho, hd⟩
    · rw [ho, hd] at he
      exact responses_singleton he
    · rw [ho, hd] at he
      exact responses_singleton he
  · rw [ho, hd] at he
    refine ⟨fun hs => ⟨responses_alike he hs, ?_⟩, responses_pair he⟩
    exact (imports_of_expression (sameShape_iff_expression.1 hs)).symm

def spelledTwice : OrderedMap Response :=
  .ofList [("default", ⟨"", some spellings.2⟩), ("404", ⟨"", some .boolean⟩),
    ("200", ⟨"", some spellings.1⟩)]

def spelledAgain : OrderedMap Response :=
  .ofList [("201", ⟨"", none⟩), ("200", ⟨"found", some spellings.1⟩),
    ("default", ⟨"", some spellings.2⟩)]

theorem responses_union_spellings :
    (successSchemas spelledAgain).Perm (successSchemas spelledTwice) ∧
      responses ⟨"../", "R"⟩ spelledAgain = responses ⟨"../", "R"⟩ spelledTwice ∧
      (responses ⟨"../", "R"⟩ spelledTwice).type = "\x7b id: Option<number>; of: Option<Pet> \x7d" ∧
      (schema ⟨"../", "R"⟩ spellings.2).imports = (schema ⟨"../", "R"⟩ spellings.1).imports := by
  obtain ⟨hp, -, -, hu⟩ := responses_union ⟨"../", "R"⟩ spelledTwice
  have hs : (successSchemas spelledAgain).Perm (successSchemas spelledTwice) :=
    .swap _ _ _
  obtain ⟨he, hi⟩ := (hu spellings.1 spellings.2 rfl rfl).1 (by rfl)
  exact ⟨hs, hp _ hs, by rw [he]; rfl, hi⟩

end Code

end TypedClient
