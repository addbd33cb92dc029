import TypedClient.Proofs.Decode.Alike

/-!
What the type of a schema decides. An object with a type is read by it or else by its properties,
for these readings pay no heed to other members; where the properties do not step in, the type says
which schema is read, and one bad schema anywhere inside makes the whole unreadable.
-/

set_option autoImplicit false

namespace TypedClient.Decode

open Api (Schema Additional)
open Source (Content Node)

theorem Result.map_ok {α β : Type} {r : Result β} {f : β → α} {v : α} :
    r.map f = .ok v ↔ ∃ a, r = .ok a ∧ f a = v := by
  cases r with
  | error e => exact ⟨nofun, nofun⟩
  | ok a => exact ⟨fun h => ⟨a, rfl, Except.ok.inj h⟩, fun ⟨_, ha, h⟩ => by cases ha; rw [← h]; rfl⟩

namespace Resolved

section

variable {σ α : Type} {value : σ → Content} {tag : String} {variants : List (String × α)}
  {ms rest : List (Content × σ)}

theorem takeTag_found {v w : α} (h : takeTag value tag variants (some w) ms = .ok (some v, rest)) :
    w = v ∧ rest = ms ∧ ∀ m ∈ ms, isText tag m.1 = false := by
  induction ms generalizing rest with
  | nil =>
    cases h
    exact ⟨rfl, rfl, nofun⟩
  | cons m ms ih =>
    obtain ⟨k, x⟩ := m
    cases hk : isText tag k with
    | true =>
      rw [takeTag.eq_def] at h
      simp only [hk, if_true] at h
      cases h
    | false =>
      rw [takeTag.eq_def] at h
      simp only [hk] at h
      obtain ⟨⟨found, r⟩, hr, he⟩ := Result.bind_ok.1 h
      cases he
      obtain ⟨rfl, rfl, hm⟩ := ih hr
      exact ⟨rfl, rfl, List.forall_mem_cons.2 ⟨hk, hm⟩⟩

theorem takeTag_ok {v : α} (h : takeTag value tag variants none ms = .ok (some v, rest)) :
    ∃ l x r, ms = l ++ (.text tag, x) :: r ∧ variant variants (value x) = .ok v ∧ rest = l ++ r ∧
      ∀ m ∈ l ++ r, isText tag m.1 = false := by
  induction ms generalizing rest with
  | nil => cases h
  | cons m ms ih =>
    obtain ⟨k, x⟩ := m
    cases hk : isText tag k with
    | true =>
      have ht : k = .text tag := by
        cases k <;> simp_all [isText]
      rw [takeTag.eq_def] at h
      simp only [hk, if_true] at h
      obtain ⟨w, hw, h⟩ := Result.bind_ok.1 h
      obtain ⟨rfl, rfl, hm⟩ := takeTag_found h
      exact ⟨[], x, rest, by rw [ht]; rfl, hw, rfl, hm⟩
    | false =>
      rw [takeTag.eq_def] at h
      simp only [hk] at h
      obtain ⟨⟨found, r⟩, hr, he⟩ := Result.bind_ok.1 h
      cases he
      obtain ⟨l, y, r, rfl, hv, rfl, hm⟩ := ih hr
      exact ⟨(k, x) :: l, y, r, rfl, hv, rfl, List.forall_mem_cons.2 ⟨hk, hm⟩⟩

theorem tagged_ok {v : α} (h : tagged value tag variants ms = .ok (v, rest)) :
    ∃ l x r, ms = l ++ (.text tag, x) :: r ∧ variant variants (value x) = .ok v ∧ rest = l ++ r ∧
      ∀ m ∈ l ++ r, isText tag m.1 = false := by
  obtain ⟨⟨found, r⟩, hr, h⟩ := Result.bind_ok.1 h
  cases found with
  | none => cases h
  | some w =>
    cases h
    exact takeTag_ok hr

end

section

variable {σ : Type} {fields : List String} {ms : List (Content × σ)} {fs : List (String × σ)}

theorem known_cons {k : Content} {x : σ} (h : known fields ((k, x) :: ms) = .ok fs) :
    (fieldName fields k = .ok none ∧ known fields ms = .ok fs) ∨
      ∃ f rest, fieldName fields k = .ok (some f) ∧ known fields ms = .ok rest ∧
        rest.lookup f = none ∧ fs = (f, x) :: rest := by
  obtain ⟨found, hf, h⟩ := Result.bind_ok.1 h
  cases found with
  | none => exact .inl ⟨hf, h⟩
  | some f =>
    obtain ⟨rest, hr, h⟩ := Result.bind_ok.1 h
    cases hl : rest.lookup f with
    | none =>
      rw [hl] at h
      cases h
      exact .inr ⟨f, rest, hf, hr, hl, rfl⟩
    | some y =>
      rw [hl] at h
      cases h

theorem known_lookup (h : known fields ms = .ok fs) {k : Content} {x : σ} (hm : (k, x) ∈ ms)
    {f : String} (hf : fieldName fields k = .ok (some f)) : fs.lookup f = some x := by
  induction ms generalizing fs with
  | nil => exact absurd hm List.not_mem_nil
  | cons m ms ih =>
    obtain ⟨k', x'⟩ := m
    rcases known_cons h with ⟨hk, hr⟩ | ⟨g, rest, hk, hr, hl, rfl⟩
    · rcases List.mem_cons.1 hm with he | hm
      · cases he
        rw [hk] at hf
        cases hf
      · exact ih hr hm
    · rcases List.mem_cons.1 hm with he | hm
      · cases he
        rw [hk] at hf
        cases hf
        exact List.lookup_cons_self
      · have hx := ih hr hm
        have hne : f ≠ g := fun he => by rw [he, hl] at hx; cases hx
        rwa [Entries.lookup_cons_ne hne]

theorem of_lookup_known (h : known fields ms = .ok fs) {f : String} {x : σ}
    (hl : fs.lookup f = some x) : ∃ k, (k, x) ∈ ms ∧ fieldName fields k = .ok (some f) := by
  induction ms generalizing fs with
  | nil => cases h; cases hl
  | cons m ms ih =>
    obtain ⟨k', x'⟩ := m
    rcases known_cons h with ⟨hk, hr⟩ | ⟨g, rest, hk, hr, -, rfl⟩
    · obtain ⟨k, hm, hf⟩ := ih hr hl
      exact ⟨k, List.mem_cons_of_mem _ hm, hf⟩
    · by_cases he : f = g
      · subst he
        rw [List.lookup_cons_self] at hl
        cases hl
        exact ⟨k', List.mem_cons_self, hk⟩
      · rw [Entries.lookup_cons_ne he] at hl
        obtain ⟨k, hm, hf⟩ := ih hr hl
        exact ⟨k, List.mem_cons_of_mem _ hm, hf⟩

theorem lookup_zip_getElem? {xs : List σ} (hn : fields.Nodup) {i : Nat} {f : String} {x : σ}
    (hf : fields[i]? = some f) (hx : xs[i]? = some x) : (fields.zip xs).lookup f = some x := by
  induction fields generalizing xs i with
  | nil => cases hf
  | cons g fields ih =>
    obtain ⟨hg, hn⟩ := List.nodup_cons.1 hn
    cases xs with
    | nil => cases hx
    | cons y xs =>
      rw [List.zip_cons_cons]
      cases i with
      | zero =>
        cases hf
        cases hx
        exact List.lookup_cons_self
      | succ i =>
        have hne : f ≠ g := fun he => hg (he ▸ List.mem_of_getElem? hf)
        rw [Entries.lookup_cons_ne hne]
        exact ih hn hf hx

theorem positional_ok {xs : List σ} (h : positional fields xs = .ok fs) : fs = fields.zip xs := by
  unfold positional at h
  split at h
  · cases h
    rfl
  · cases h

end

end Resolved

open Reading (SchemaType schemaTypes untypedFields)

def typeOf? : Schema → Option SchemaType
  | .string .. => some .string
  | .boolean => some .boolean
  | .integer _ => some .integer
  | .number _ => some .number
  | .array _ => some .array
  | .object .. => some .object
  | _ => none

/-- The key stands for the field, by its name or by its place among the fields. -/
def StandsFor (fields : List String) (name : String) (key : Content) : Prop :=
  Resolved.fieldName fields key = .ok (some name)

abbrev Object := List (Content × Content)

namespace Object

variable (ms : Object)

def HasType : Prop := ∃ w, (.text "type", w) ∈ ms

def HasReference : Prop := ∃ m ∈ ms, StandsFor ["$ref"] "$ref" m.1

/-- The object has a type and cannot be read by it, but it can be read by its properties. -/
structure Bypassed : Prop where
  hasType : ms.HasType
  notReference : ∀ x, Reading.asReference (Reading.ofValues ms) ≠ .ok x
  notTyped : ∀ x, Reading.asTyped (Reading.ofValues ms) ≠ .ok x
  untyped : ∃ x, Reading.asUntyped (Reading.ofValues ms) = .ok x

/-- The object is read by the place of a type among all types. -/
structure Numbered : Prop where
  number : ∃ n, (.text "type", .number n) ∈ ms
  typed : ∃ x, Reading.asTyped (Reading.ofValues ms) = .ok x

/-- The object's own answer for the members that it does not name. -/
def Answers : Option (Api.Additional Schema) → Prop
  | none => ∀ m ∈ ms, StandsFor SchemaType.object.fields "additionalProperties" m.1 → m.2 = .null
  | some (.allowed flag) =>
    ∃ k, (k, .bool flag) ∈ ms ∧ StandsFor SchemaType.object.fields "additionalProperties" k
  | some (.like x) =>
    ∃ k c, (k, c) ∈ ms ∧ StandsFor SchemaType.object.fields "additionalProperties" k ∧
      Resolved.schema c = .ok x

/-- The schema is of the type that the object names, and carries the object's own answer. -/
structure Kept (x : Schema) : Prop where
  type : ∃ name t, (.text "type", .text name) ∈ ms ∧ schemaTypes.lookup name = some t ∧
    typeOf? x = some t
  answers : ∀ ps required extra, x = .object ps required extra → ms.Answers extra

/-- The object names no known type, or it answers for the members that it does not name by what is
neither a flag nor a schema. -/
inductive Unfit : Prop
  | type {name : String} (hm : (.text "type", .text name) ∈ ms)
      (hl : schemaTypes.lookup name = none) : Unfit
  | additional {k c : Content} {e : Problem} (ho : (.text "type", .text "object") ∈ ms)
      (hm : (k, c) ∈ ms) (hk : StandsFor SchemaType.object.fields "additionalProperties" k)
      (hc : c ≠ .null) (ha : Reading.additional (.of c) = .error e) : Unfit

end Object

namespace Reading

open Result

variable {ms : Object}

theorem ofValues_eq (ms : Object) : ofValues ms = ms.map fun m => (m.1, of m.2) := by
  induction ms with
  | nil => rfl
  | cons m ms ih => rw [ofValues, ih, List.map_cons]

theorem mem_ofValues {k c : Content} (h : (k, c) ∈ ms) : (k, of c) ∈ ofValues ms := by
  rw [ofValues_eq]
  exact List.mem_map_of_mem (f := fun m => (m.1, of m.2)) h

theorem of_mem_ofValues {k : Content} {r : Reading} (h : (k, r) ∈ ofValues ms) :
    ∃ c, (k, c) ∈ ms ∧ r = of c := by
  rw [ofValues_eq] at h
  obtain ⟨m, hm, he⟩ := List.mem_map.1 h
  cases he
  exact ⟨m.2, hm, rfl⟩

theorem ofType_typed (fs : Fields) (t : SchemaType) :
    (ofType fs t).Gives fun x => typeOf? x = some t := by
  cases t with
  | string => exact (gives_any _).bind fun _ _ => (gives_any _).bind fun _ _ => gives_ok rfl
  | boolean => exact gives_ok rfl
  | integer => exact (gives_any _).bind fun _ _ => gives_ok rfl
  | number => exact (gives_any _).bind fun _ _ => gives_ok rfl
  | array => exact (gives_any _).bind fun _ _ => gives_ok rfl
  | object =>
    exact (gives_any _).bind fun _ _ => (gives_any _).bind fun _ _ =>
      (gives_any _).bind fun _ _ => gives_ok rfl

theorem asUntyped_untyped (rs : Reading.Members) :
    (asUntyped rs).Gives fun x => typeOf? x = none :=
  (gives_any _).bind fun _ _ => (gives_any _).bind fun _ _ =>
    (gives_any _).bind fun _ _ => gives_ok rfl

theorem firstOf_cons_ok {r : Result Schema} {rs : List (Result Schema)} {x : Schema} :
    firstOf (r :: rs) = .ok x ↔ r = .ok x ∨ (∀ y, r ≠ .ok y) ∧ firstOf rs = .ok x := by
  cases r with
  | error e =>
    rw [firstOf_error rfl]
    exact ⟨fun h => .inr ⟨nofun, h⟩, fun h => h.elim nofun And.right⟩
  | ok y =>
    rw [firstOf_ok rfl]
    exact ⟨.inl, fun h => h.elim id fun h => absurd rfl (h.1 y)⟩

theorem firstOf_nil_ok {x : Schema} : ¬ firstOf [] = .ok x := nofun

theorem schema_mapping {x : Schema} : Resolved.schema (.mapping ms) = .ok x ↔
    asReference (ofValues ms) = .ok x ∨
      (∀ y, asReference (ofValues ms) ≠ .ok y) ∧
        (asTyped (ofValues ms) = .ok x ∨
          (∀ y, asTyped (ofValues ms) ≠ .ok y) ∧ asUntyped (ofValues ms) = .ok x) := by
  change firstOf [asReference (ofValues ms), asTyped (ofValues ms), asUntyped (ofValues ms)] = _ ↔ _
  simp only [firstOf_cons_ok, firstOf_nil_ok, and_false, or_false]

theorem schema_sequence {cs : List Content} {x : Schema} : Resolved.schema (.sequence cs) = .ok x ↔
    itemsTyped (cs.map of) = .ok x ∨
      (∀ y, itemsTyped (cs.map of) ≠ .ok y) ∧ itemsUntyped (cs.map of) = .ok x := by
  rw [← ofEach_eq]
  change firstOf [itemsTyped (ofEach cs), itemsUntyped (ofEach cs)] = _ ↔ _
  simp only [firstOf_cons_ok, firstOf_nil_ok, and_false, or_false]

theorem field_some {α : Type} {fs : Fields} {name : String} {read : Reading → Result α} {v : α}
    (h : field fs name read = .ok v) : ∃ r, fs.lookup name = some r ∧ read r = .ok v := by
  unfold field at h
  split at h
  · next r hr => exact ⟨r, hr, h⟩
  · cases h

theorem asReference_ok {x : Schema} (h : asReference (ofValues ms) = .ok x) :
    ms.HasReference ∧ ∃ path, x = .reference path := by
  obtain ⟨fs, hk, h⟩ := Result.bind_ok.1 h
  obtain ⟨path, hf, h⟩ := Result.bind_ok.1 h
  cases h
  obtain ⟨r, hl, -⟩ := field_some hf
  obtain ⟨k, hm, hs⟩ := Resolved.of_lookup_known hk hl
  obtain ⟨c, hc, -⟩ := of_mem_ofValues hm
  exact ⟨⟨(k, c), hc, hs⟩, path, rfl⟩

/-- The fields are the values of the members that stand for them. -/
structure Takes (fields : List String) (ms : Object) (fs : Fields) : Prop where
  lookup : ∀ {k c name}, (k, c) ∈ ms → StandsFor fields name k → fs.lookup name = some (of c)
  member : ∀ {name r}, fs.lookup name = some r →
    ∃ k c, (k, c) ∈ ms ∧ StandsFor fields name k ∧ r = of c

theorem not_standsFor_type (t : SchemaType) (name : String) :
    ¬ StandsFor t.fields name (.text "type") := by
  cases t <;> exact nofun

/-- What is read by the type is told by the one member that names it. -/
theorem asTyped_ok {x : Schema} (h : asTyped (ofValues ms) = .ok x) :
    ∃ t fs w, ofType fs t = .ok x ∧ Takes t.fields ms fs ∧
      Resolved.variant schemaTypes w = .ok t ∧ ∀ v, (.text "type", v) ∈ ms ↔ v = w := by
  obtain ⟨⟨t, rest⟩, ht, hx⟩ := Result.bind_ok.1 h
  obtain ⟨fs, hk, hx⟩ := Result.bind_ok.1 hx
  obtain ⟨l, w, r, hms, hw, hrest, hn⟩ := Resolved.tagged_ok ht
  have hmem (m : Content × Reading) : m ∈ ofValues ms ↔ m = (.text "type", w) ∨ m ∈ rest := by
    rw [hms, hrest, List.mem_append, List.mem_append, List.mem_cons]
    tauto
  refine ⟨t, fs, w.value, hx, ⟨fun {k c name} hm hs => ?_, fun {name r} hl => ?_⟩, hw, fun v => ?_⟩
  · rcases (hmem _).1 (mem_ofValues hm) with he | hm
    · cases he
      exact absurd hs (not_standsFor_type t name)
    · exact Resolved.known_lookup hk hm hs
  · obtain ⟨k, hm, hs⟩ := Resolved.of_lookup_known hk hl
    obtain ⟨c, hc, rfl⟩ := of_mem_ofValues ((hmem _).2 (.inr hm))
    exact ⟨k, c, hc, hs, rfl⟩
  · constructor
    · intro hv
      rcases (hmem _).1 (mem_ofValues hv) with he | hm
      · cases he
        exact (of_value v).symm
      · have htext := hn _ (hrest ▸ hm)
        simp [Resolved.isText] at htext
    · rintro rfl
      obtain ⟨c, hc, he⟩ := of_mem_ofValues ((hmem _).2 (.inl rfl))
      rwa [he, of_value]

theorem asUntyped_ok {x : Schema} (h : asUntyped (ofValues ms) = .ok x) :
    ∃ fs, ofProperties fs = .ok x ∧ Takes untypedFields ms fs := by
  obtain ⟨fs, hk, hx⟩ := Result.bind_ok.1 h
  refine ⟨fs, hx, fun hm hs => Resolved.known_lookup hk (mem_ofValues hm) hs, fun hl => ?_⟩
  obtain ⟨k, hm, hs⟩ := Resolved.of_lookup_known hk hl
  obtain ⟨c, hc, rfl⟩ := of_mem_ofValues hm
  exact ⟨k, c, hc, hs, rfl⟩

section Fields

variable {α : Type} {fs : Fields} {name : String} {read : Reading → Result α}

theorem field_ok {r : Reading} {v : α} (h : field fs name read = .ok v)
    (hl : fs.lookup name = some r) : read r = .ok v := by
  rwa [field, hl] at h

theorem optional_ok {c : Content} {v : Option α} (h : optional fs name read = .ok v)
    (hl : fs.lookup name = some (of c)) (hc : c ≠ .null) :
    ∃ w, v = some w ∧ read (of c) = .ok w := by
  rw [optional, hl] at h
  simp only [of_value] at h
  unfold Resolved.option at h
  split at h
  · exact absurd rfl hc
  · obtain ⟨w, hw, hv⟩ := Result.map_ok.1 h
    exact ⟨w, hv.symm, hw⟩

theorem optional_none {c : Content} (h : optional fs name read = .ok none)
    (hl : fs.lookup name = some (of c)) : c = .null := by
  by_contra hc
  obtain ⟨w, hw, -⟩ := optional_ok h hl hc
  cases hw

theorem optional_some {v : α} (h : optional fs name read = .ok (some v)) :
    ∃ r, fs.lookup name = some r ∧ read r = .ok v := by
  unfold optional at h
  split at h
  · next r hr =>
    refine ⟨r, hr, ?_⟩
    unfold Resolved.option at h
    split at h
    · cases h
    · obtain ⟨w, hw, he⟩ := Result.map_ok.1 h
      cases he
      exact hw
  · cases h

end Fields

theorem additional_ok {c : Content} {a : Additional Schema} (h : additional (of c) = .ok a) :
    (∃ flag, c = .bool flag ∧ a = .allowed flag) ∨
      ∃ x, Resolved.schema c = .ok x ∧ a = .like x := by
  unfold additional at h
  rw [of_value] at h
  split at h
  · next flag =>
    cases h
    exact .inl ⟨flag, rfl, rfl⟩
  · obtain ⟨x, hx, ha⟩ := Result.map_ok.1 h
    exact .inr ⟨x, hx, ha.symm⟩

theorem variant_ok {w : Content} {t : SchemaType} (h : Resolved.variant schemaTypes w = .ok t) :
    (∃ name, w = .text name ∧ schemaTypes.lookup name = some t) ∨ ∃ n, w = .number n := by
  cases w with
  | text name =>
    rw [Resolved.variant] at h
    cases hl : schemaTypes.lookup name with
    | none =>
      rw [hl] at h
      cases h
    | some v =>
      rw [hl] at h
      cases h
      exact .inl ⟨name, rfl, hl⟩
  | number n => exact .inr ⟨n, rfl⟩
  | _ => cases h

/-- The parts of an object that was read by its type. -/
theorem object_ok {fs : Fields} {x : Schema} (h : ofType fs .object = .ok x) :
    ∃ ps required extra, x = .object ps required extra ∧
      optional fs "properties" table = .ok ps ∧
      optional fs "additionalProperties" additional = .ok extra := by
  obtain ⟨ps, hp, h⟩ := Result.bind_ok.1 h
  obtain ⟨required, -, h⟩ := Result.bind_ok.1 h
  obtain ⟨extra, ha, h⟩ := Result.bind_ok.1 h
  cases h
  exact ⟨ps, required, extra, rfl, hp, ha⟩

theorem answers_of_takes {fs : Fields} {extra : Option (Additional Schema)}
    (hf : Takes SchemaType.object.fields ms fs)
    (h : optional fs "additionalProperties" additional = .ok extra) : ms.Answers extra := by
  cases extra with
  | none => exact fun m hm hs => optional_none h (hf.lookup hm hs)
  | some a =>
    obtain ⟨r, hl, hr⟩ := optional_some h
    obtain ⟨k, c, hm, hs, rfl⟩ := hf.member hl
    rcases additional_ok hr with ⟨flag, rfl, rfl⟩ | ⟨x, hx, rfl⟩
    · exact ⟨k, hm, hs⟩
    · exact ⟨k, c, hm, hs, hx⟩

theorem kept_of_typed {x : Schema} (h : asTyped (ofValues ms) = .ok x) (hn : ¬ ms.Numbered) :
    ms.Kept x := by
  obtain ⟨t, fs, w, hx, hf, hv, hw⟩ := asTyped_ok h
  constructor
  · rcases variant_ok hv with ⟨name, rfl, hl⟩ | ⟨n, rfl⟩
    · exact ⟨name, t, (hw _).2 rfl, hl, ofType_typed fs t x hx⟩
    · exact absurd ⟨⟨n, (hw _).2 rfl⟩, x, h⟩ hn
  · rintro ps required extra rfl
    obtain rfl : t = .object := Option.some.inj (ofType_typed fs t _ hx).symm
    obtain ⟨ps', required', extra', he, -, ha⟩ := object_ok hx
    cases he
    exact answers_of_takes hf ha

theorem not_unfit_of_typed {x : Schema} (h : asTyped (ofValues ms) = .ok x) : ¬ ms.Unfit := by
  obtain ⟨t, fs, w, hx, hf, hv, hw⟩ := asTyped_ok h
  rintro (⟨hm, hl⟩ | ⟨ho, hm, hk, hc, ha⟩)
  · rcases variant_ok hv with ⟨name, rfl, hl'⟩ | ⟨n, rfl⟩
    · cases (hw _).1 hm
      rw [hl] at hl'
      cases hl'
    · cases (hw _).1 hm
  · obtain rfl := (hw _).1 ho
    obtain rfl : .object = t := Except.ok.inj hv
    obtain ⟨ps, required, extra, -, -, hx⟩ := object_ok hx
    obtain ⟨w, -, hw⟩ := optional_ok hx (hf.lookup hm hk) hc
    rw [ha] at hw
    cases hw

theorem not_kept_of_numbered (h : ms.Numbered) (x : Schema) : ¬ ms.Kept x := by
  intro hx
  obtain ⟨⟨n, hn⟩, y, hy⟩ := h
  obtain ⟨name, -, hm, -⟩ := hx.type
  obtain ⟨-, -, w, -, -, -, hw⟩ := asTyped_ok hy
  cases ((hw _).1 hn).trans ((hw _).1 hm).symm

/-- An object with a type is read by it, unless it is bypassed or a reference. -/
theorem typed_of_schema {x : Schema} (h : Resolved.schema (.mapping ms) = .ok x)
    (ht : ms.HasType) (hb : ¬ ms.Bypassed) (hr : ∀ y, asReference (ofValues ms) ≠ .ok y) :
    asTyped (ofValues ms) = .ok x := by
  rcases schema_mapping.1 h with h | ⟨-, h | ⟨hn, h⟩⟩
  · exact absurd h (hr x)
  · exact h
  · exact absurd ⟨ht, hr, hn, x, h⟩ hb

theorem standsFor_text {fields : List String} {name key : String}
    (h : StandsFor fields name (.text key)) : key = name := by
  have h : (if fields.contains key then some key else none) = some name := Except.ok.inj h
  split at h
  · exact Option.some.inj h
  · cases h

theorem not_bypassed_of_lacking
    (h : ∀ m ∈ ms, ¬ StandsFor untypedFields "properties" m.1) : ¬ ms.Bypassed := by
  intro hb
  obtain ⟨x, hx⟩ := hb.untyped
  obtain ⟨fs, hx, hf⟩ := asUntyped_ok hx
  obtain ⟨ps, hp, -⟩ := Result.bind_ok.1 hx
  obtain ⟨r, hl, -⟩ := field_some hp
  obtain ⟨k, c, hm, hk, -⟩ := hf.member hl
  exact h _ hm hk

end Reading

end TypedClient.Decode
