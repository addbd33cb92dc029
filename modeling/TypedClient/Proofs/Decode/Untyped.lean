import TypedClient.Proofs.Codec.Faithful
import TypedClient.Proofs.Decode.Inside

/-!
A type left out. An object without a type is read by its properties, as it is with the type added;
but read so it is not asked for the members that it does not name, and its code is the same exactly
when it would have none.
-/

set_option autoImplicit false

namespace TypedClient

open Api (Schema Additional)

namespace Decode

open Source (Content Node)
open Reading

/-- The object has no members but those that it names, if it says anything of them. -/
def Object.IsClosed (ms : Object) : Prop :=
  ∀ m ∈ ms, StandsFor SchemaType.object.fields "additionalProperties" m.1 →
    m.2 = .null ∨ m.2 = .bool false

variable {name : String} {l r ms : Object} {fs gs : Fields}

theorem Reading.Takes.lookup_iff {fields : List String} (h : Takes fields ms fs) {x : Reading} :
    fs.lookup name = some x ↔ ∃ k c, (k, c) ∈ ms ∧ StandsFor fields name k ∧ x = of c := by
  constructor
  · exact h.member
  · rintro ⟨k, c, hm, hs, rfl⟩
    exact h.lookup hm hs

theorem standsFor_iff {fields : List String} {k : Content} :
    StandsFor fields name k ↔ (k = .text name ∧ name ∈ fields) ∨
      ∃ i, Resolved.index? k = some i ∧ fields[i]? = some name := by
  cases k with
  | text key =>
    have hi : Resolved.index? (.text key) = none := rfl
    simp only [StandsFor, Resolved.fieldName, Except.ok.injEq, List.contains_iff_mem,
      Content.text.injEq, hi]
    grind
  | number n =>
    cases hi : Resolved.index? (.number n) <;>
      simp [StandsFor, Resolved.fieldName, wrongType, fail, hi]
  | _ => simp [StandsFor, Resolved.fieldName, Resolved.index?, wrongType, fail]

theorem standsFor_append {fields others : List String} (hn : name ∉ others) {k : Content} :
    StandsFor (fields ++ others) name k ↔ StandsFor fields name k := by
  have hi (i : Nat) : (fields ++ others)[i]? = some name ↔ fields[i]? = some name := by
    rw [List.getElem?_append]
    split
    · exact Iff.rfl
    · next h =>
      have hf : fields[i]? = none := List.getElem?_eq_none (by omega)
      rw [hf]
      exact ⟨fun h => absurd (List.mem_of_getElem? h) hn, fun h => by cases h⟩
  simp only [standsFor_iff, List.mem_append, hn, or_false, hi]

/-- Read by the properties or by the type beside the other members, a field has the same value. -/
theorem lookup_beside {w : Content} (hx : Takes untypedFields (l ++ r) fs)
    (hy : Takes SchemaType.object.fields (l ++ (.text "type", w) :: r) gs)
    (hn : name ≠ "additionalProperties") : fs.lookup name = gs.lookup name := by
  have hs (k : Content) :
      StandsFor SchemaType.object.fields name k ↔ StandsFor untypedFields name k := by
    change StandsFor (untypedFields ++ ["additionalProperties"]) name k ↔ _
    exact standsFor_append (by simpa using hn)
  refine Option.ext fun x => ?_
  rw [hx.lookup_iff, hy.lookup_iff]
  refine exists_congr fun k => exists_congr fun c => ?_
  rw [hs, List.mem_append, List.mem_append, List.mem_cons]
  constructor
  · rintro ⟨hm, hk⟩
    exact ⟨hm.imp_right .inr, hk⟩
  · rintro ⟨hm | he | hm, hk, hc⟩
    · exact ⟨.inl hm, hk, hc⟩
    · cases he
      exact absurd ((hs _).2 hk) (not_standsFor_type .object name)
    · exact ⟨.inr hm, hk, hc⟩

theorem isClosed_beside {w : Content} :
    Object.IsClosed (l ++ (.text "type", w) :: r) ↔ Object.IsClosed (l ++ r) := by
  have ht : ¬ StandsFor SchemaType.object.fields "additionalProperties" (.text "type") :=
    not_standsFor_type .object _
  simp [Object.IsClosed, or_imp, forall_and, ht]

theorem isClosed_of_lookup {k c : Content} (h : Takes SchemaType.object.fields ms fs)
    (hm : (k, c) ∈ ms) (hk : StandsFor SchemaType.object.fields "additionalProperties" k) :
    ms.IsClosed ↔ c = .null ∨ c = .bool false := by
  constructor
  · exact fun hc => hc _ hm hk
  · rintro hc ⟨k', c'⟩ hm' hk'
    have he := (h.lookup hm hk).symm.trans (h.lookup hm' hk')
    have hv : c = c' := by simpa [of_value] using congrArg Reading.value (Option.some.inj he)
    exact hv ▸ hc

theorem isClosed_iff {extra : Option (Additional Schema)}
    (h : Takes SchemaType.object.fields ms fs)
    (ha : Reading.optional fs "additionalProperties" additional = .ok extra) :
    ms.IsClosed ↔ extra = none ∨ extra = some (.allowed false) := by
  cases hl : fs.lookup "additionalProperties" with
  | none =>
    rw [Reading.optional, hl] at ha
    cases ha
    refine ⟨fun _ => .inl rfl, fun _ m hm hs => ?_⟩
    rw [h.lookup hm hs] at hl
    cases hl
  | some x =>
    obtain ⟨k, c, hm, hk, rfl⟩ := h.member hl
    rw [isClosed_of_lookup h hm hk]
    by_cases hc : c = .null
    · subst hc
      rw [Reading.optional, hl] at ha
      cases ha
      simp
    · obtain ⟨a, rfl, hr⟩ := optional_ok ha hl hc
      rcases additional_ok hr with ⟨flag, rfl, rfl⟩ | ⟨y, hy, rfl⟩
      · simp
      · have hb : c ≠ .bool false := by
          rintro rfl
          cases hy
        simp [hc, hb]

theorem asUntyped_of_lacking {x : Schema} (h : Resolved.schema (.mapping ms) = .ok x)
    (ht : ¬ ms.HasType) (hr : ¬ ms.HasReference) : asUntyped (ofValues ms) = .ok x := by
  rcases schema_mapping.1 h with h | ⟨-, h | ⟨-, h⟩⟩
  · exact absurd h (asReference_of_not_hasReference hr x)
  · obtain ⟨-, -, w, -, -, -, hw⟩ := asTyped_ok h
    exact absurd ⟨w, (hw w).2 rfl⟩ ht
  · exact h

theorem asTyped_of_type {x : Schema} {t : SchemaType}
    (h : Resolved.schema (.mapping ms) = .ok x) (hx : typeOf? x = some t) :
    asTyped (ofValues ms) = .ok x := by
  rcases schema_mapping.1 h with h | ⟨-, h | ⟨-, h⟩⟩
  · obtain ⟨-, path, rfl⟩ := asReference_ok h
    cases hx
  · exact h
  · have hn := asUntyped_untyped _ _ h
    rw [hn] at hx
    cases hx

/-- The type keeps the properties and what of them is required, and adds the answer for other
members. -/
theorem object_of_untyped {x y : Schema} {w : Content}
    (hx : asUntyped (ofValues (l ++ r)) = .ok x)
    (hy : asTyped (ofValues (l ++ (.text "type", w) :: r)) = .ok y)
    (ht : typeOf? y = some .object) :
    ∃ ps required extra, x = .untyped ps required ∧ y = .object (some ps) required extra ∧
      (Object.IsClosed (l ++ r) ↔ extra = none ∨ extra = some (.allowed false)) := by
  obtain ⟨fs, hfs, hf⟩ := asUntyped_ok hx
  obtain ⟨t, gs, v, hgs, hg, -, -⟩ := asTyped_ok hy
  obtain rfl : t = .object := Option.some.inj ((ofType_typed gs t y hgs).symm.trans ht)
  obtain ⟨ps, hp, hfs⟩ := Result.bind_ok.1 hfs
  obtain ⟨required, hr, hfs⟩ := Result.bind_ok.1 hfs
  cases hfs
  obtain ⟨ps', hp', hgs⟩ := Result.bind_ok.1 hgs
  obtain ⟨required', hr', hgs⟩ := Result.bind_ok.1 hgs
  obtain ⟨extra, ha, hgs⟩ := Result.bind_ok.1 hgs
  cases hgs
  have hps : ps' = some ps := by
    obtain ⟨rd, hl, htable⟩ := field_some hp
    obtain ⟨k, c, -, -, rfl⟩ := hf.member hl
    -- By the type the properties may be null, but then they cannot be read without it.
    have hc : c ≠ .null := by
      rintro rfl
      cases htable
    rw [lookup_beside hf hg (by decide)] at hl
    obtain ⟨qs, rfl, hq⟩ := optional_ok hp' hl hc
    rw [htable] at hq
    cases hq
    rfl
  have hrequired : required' = required := by
    unfold Reading.optional at hr hr'
    rw [lookup_beside hf hg (by decide), hr'] at hr
    exact Except.ok.inj hr
  exact ⟨ps, required, extra, rfl, by rw [hps, hrequired],
    isClosed_beside.symm.trans (isClosed_iff hg ha)⟩

end Decode

namespace Code

theorem schema_untyped_iff {s : Scope} {ps : List (String × Schema)}
    {required : Option (List String)} {extra : Option (Additional Schema)} :
    schema s (.untyped ps required) = schema s (.object (some ps) required extra) ↔
      extra = none ∨ extra = some (.allowed false) := by
  constructor
  · intro h
    have hs : (schema s (.untyped ps required)).sameShape
        (schema s (.object (some ps) required extra)) = true := by
      rw [← h]
      simp [Fragment.sameShape]
    have he := Codec.ofSchema_eq_iff.1 (sameShape_iff_expression.1 hs)
    rcases extra with _ | ((_ | _) | value)
    · exact .inl rfl
    · exact .inr rfl
    · cases he
    · cases he
  · rintro (rfl | rfl) <;> rfl

open Source (Node)
open Decode Decode.Reading

/-- Where the type of an object with properties is left out, adding it changes nothing of the code,
for whatever definition and from wherever the code reaches the others, exactly when the object is
closed. -/
theorem schema_addType_iff {p : Place} {n n' : Node} {a a' b b' d d' : Nat} {l r : Object}
    {x y : Schema} (hn : content p n a = .ok (.mapping (l ++ r), b))
    (hn' : content p n' a' = .ok (.mapping (l ++ (.text "type", .text "object") :: r), b'))
    (ht : ¬ Object.HasType (l ++ r)) (hr : ¬ Object.HasReference (l ++ r))
    (hx : readSchema p n a = .ok (x, d)) (hy : readSchema p n' a' = .ok (y, d'))
    (hty : typeOf? y = some .object) (s : Scope) :
    schema s x = schema s y ↔ Object.IsClosed (l ++ r) := by
  have hx := asUntyped_of_lacking ((readSchema_ok hn).1 hx).1 ht hr
  have hy := asTyped_of_type ((readSchema_ok hn').1 hy).1 hty
  obtain ⟨ps, required, extra, rfl, rfl, hc⟩ := object_of_untyped hx hy hty
  exact schema_untyped_iff.trans hc.symm

def ownedHead : List (String × Json) := [("required", .list [.text "id"])]

def ownedTail : List (String × Json) :=
  [("properties", .record [("id", .record [("type", .text "integer")]),
      ("owner", .record [("$ref", .text "#/definitions/User")])]),
    ("additionalProperties", .bool false), ("x-note", .integer 3)]

def ownedProperties : List (String × Schema) :=
  [("id", .integer none), ("owner", .reference "#/definitions/User")]

theorem schema_addType_owned :
    readSchema jsonPlace (Json.record (ownedHead ++ ownedTail)).node 0 =
        .ok (.untyped ownedProperties (some ["id"]), 0) ∧
      readSchema jsonPlace
          (Json.record (ownedHead ++ ("type", .text "object") :: ownedTail)).node 0 =
        .ok (.object (some ownedProperties) (some ["id"]) (some (.allowed false)), 0) ∧
      ∀ s, schema s (.untyped ownedProperties (some ["id"])) =
        schema s (.object (some ownedProperties) (some ["id"]) (some (.allowed false))) := by
  have hx : readSchema jsonPlace (Json.record (ownedHead ++ ownedTail)).node 0 =
      .ok (.untyped ownedProperties (some ["id"]), 0) := by rfl
  have hy : readSchema jsonPlace
      (Json.record (ownedHead ++ ("type", .text "object") :: ownedTail)).node 0 =
      .ok (.object (some ownedProperties) (some ["id"]) (some (.allowed false)), 0) := by rfl
  refine ⟨hx, hy, fun s => (schema_addType_iff (l := Json.memberContents ownedHead)
    (r := Json.memberContents ownedTail) rfl rfl ?_ ?_ hx hy rfl s).2 ?_⟩
  · simp [Object.HasType, ownedHead, ownedTail, Json.memberContents]
  · simp [Object.HasReference, standsFor_iff, Resolved.index?, ownedHead, ownedTail,
      Json.memberContents]
  · simp [Object.IsClosed, standsFor_iff, Resolved.index?, ownedHead, ownedTail,
      Json.memberContents, Json.content]

def openMembers : List (String × Json) :=
  [("properties", .record [("a", .record [("type", .text "string")])]),
    ("additionalProperties", .bool true)]

def openProperties : List (String × Schema) := [("a", .string none none)]

theorem exact_openMembers : ∀ e ∈ openMembers, e.2.Exact :=
  List.forall_mem_cons.2 ⟨.record (List.forall_mem_singleton.2
    (.record (List.forall_mem_singleton.2 (.text _)))), List.forall_mem_singleton.2 (.bool true)⟩

theorem not_schema_addType_open :
    readJsonText readSchema (Json.record openMembers).compact =
        .ok (.untyped openProperties none) ∧
      readJsonText readSchema (Json.record (("type", .text "object") :: openMembers)).compact =
        .ok (.object (some openProperties) none (some (.allowed true))) ∧
      (schema ⟨"./", "Root"⟩ (.untyped openProperties none)).type =
        "\x7b a: Option<string> \x7d" ∧
      (schema ⟨"./", "Root"⟩ (.object (some openProperties) none (some (.allowed true)))).type =
        "\x7b [key: string]: unknown \x7d" := by
  refine ⟨?_, ?_, rfl, rfl⟩
  · rw [readJsonText, Source.JsonText.document_compact (.record exact_openMembers)]
    rfl
  · have ht : ∀ e ∈ ("type", Json.text "object") :: openMembers, e.2.Exact :=
      List.forall_mem_cons.2 ⟨.text "object", exact_openMembers⟩
    rw [readJsonText, Source.JsonText.document_compact (.record ht)]
    rfl

end Code

end TypedClient
