import TypedClient.Proofs.Codec.Compiled

/-!
What the compiler comes upon in a schema. Its code needs the wrappers for properties that may be left
out exactly when there is such a property, in the schema itself or below it.
-/

set_option autoImplicit false

namespace TypedClient

namespace Api.Schema

/-- The properties by which an object is compiled, none when it says nothing of its members, and the
names of the required ones. -/
def properties? : Schema → Option (List (String × Schema) × Option (List String))
  | .object ps required none => some (ps.getD [], required)
  | .object ps required (some (.allowed false)) => some (ps.getD [], required)
  | .untyped ps required => some (ps, required)
  | _ => none

def HasOptional (x : Schema) : Prop :=
  ∃ ps required, x.properties? = some (ps, required) ∧ ∃ e ∈ ps, e.1 ∉ required.getD []

theorem isRequired_eq (required : Option (List String)) (name : String) :
    isRequired required name = decide (name ∈ required.getD []) :=
  List.contains_eq_mem name (required.getD [])

/-- Compiling the first schema comes upon the second. -/
inductive Reaches : Schema → Schema → Prop where
  | self (x : Schema) : Reaches x x
  | item {x y : Schema} : Reaches x y → Reaches (.array x) y
  | value {ps : Option (List (String × Schema))} {required : Option (List String)} {x y : Schema} :
    Reaches x y → Reaches (.object ps required (some (.like x))) y
  | property {x y : Schema} {ps : List (String × Schema)} {required : Option (List String)}
    {e : String × Schema} :
    x.properties? = some (ps, required) → e ∈ ps → Reaches e.2 y → Reaches x y

def Finds (P : Schema → Prop) (x : Schema) : Prop := ∃ y, x.Reaches y ∧ P y

theorem properties?_eq_some {x : Schema} {ps : List (String × Schema)}
    {required : Option (List String)} (h : x.properties? = some (ps, required)) :
    x.fields? = some (ps, required) ∨ x.isBare = true ∧ ps = [] := by
  unfold properties? at h
  split at h
  · next qs _ => cases qs <;> simp_all [fields?, isBare]
  · next qs _ => cases qs <;> simp_all [fields?, isBare]
  · exact .inl h
  · cases h

theorem properties?_of_fields? {x : Schema} {ps : List (String × Schema)}
    {required : Option (List String)} (h : x.fields? = some (ps, required)) :
    x.properties? = some (ps, required) := by
  rcases fields?_eq_some h with rfl | rfl | rfl <;> rfl

theorem properties?_of_isBare {x : Schema} (h : x.isBare = true) :
    ∃ required, x.properties? = some ([], required) := by
  obtain ⟨required, rfl | rfl⟩ := isBare_eq_true h <;> exact ⟨required, rfl⟩

section Finds

variable {P : Schema → Prop} {x : Schema}

theorem finds_array : (array x).Finds P ↔ P (array x) ∨ x.Finds P := by
  constructor
  · rintro ⟨y, hr, hy⟩
    cases hr with
    | self => exact .inl hy
    | item hr => exact .inr ⟨y, hr, hy⟩
    | property hp => cases hp
  · rintro (hx | ⟨y, hr, hy⟩)
    · exact ⟨_, .self _, hx⟩
    · exact ⟨y, .item hr, hy⟩

theorem finds_dictionary {ps : Option (List (String × Schema))} {required : Option (List String)} :
    (object ps required (some (.like x))).Finds P ↔
      P (object ps required (some (.like x))) ∨ x.Finds P := by
  constructor
  · rintro ⟨y, hr, hy⟩
    cases hr with
    | self => exact .inl hy
    | value hr => exact .inr ⟨y, hr, hy⟩
    | property hp => cases hp
  · rintro (hx | ⟨y, hr, hy⟩)
    · exact ⟨_, .self _, hx⟩
    · exact ⟨y, .value hr, hy⟩

theorem finds_properties {ps : List (String × Schema)} {required : Option (List String)}
    (h : x.properties? = some (ps, required)) : x.Finds P ↔ P x ∨ ∃ e ∈ ps, e.2.Finds P := by
  constructor
  · rintro ⟨y, hr, hy⟩
    cases hr with
    | self => exact .inl hy
    | item => cases h
    | value => cases h
    | property hp he hr =>
      rw [h] at hp
      cases hp
      exact .inr ⟨_, he, y, hr, hy⟩
  · rintro (hx | ⟨e, he, y, hr, hy⟩)
    · exact ⟨x, .self x, hx⟩
    · exact ⟨y, .property h he hr, hy⟩

theorem finds_leaf (hp : x.properties? = none) (ha : ∀ y, x ≠ .array y)
    (hd : ∀ ps required y, x ≠ .object ps required (some (.like y))) : x.Finds P ↔ P x := by
  constructor
  · rintro ⟨y, hr, hy⟩
    cases hr with
    | self => exact hy
    | item => exact absurd rfl (ha _)
    | value => exact absurd rfl (hd _ _ _)
    | property hq => simp [hp] at hq
  · exact fun hx => ⟨x, .self x, hx⟩

end Finds

theorem hasOptional_of_properties {x : Schema} {ps : List (String × Schema)}
    {required : Option (List String)} (h : x.properties? = some (ps, required)) :
    x.HasOptional ↔ ∃ e ∈ ps, isRequired required e.1 = false := by
  simp only [isRequired_eq, decide_eq_false_iff_not]
  constructor
  · rintro ⟨_, _, hp, he⟩
    rw [h] at hp
    cases hp
    exact he
  · exact fun he => ⟨ps, required, h, he⟩

theorem not_hasOptional {x : Schema} (h : x.properties? = none) : ¬ x.HasOptional := by
  simp [HasOptional, h]

end Api.Schema

namespace Code

open Api (Schema)

theorem visited_property {x : Schema} {ps : List (String × Schema)}
    {required : Option (List String)} (h : x.properties? = some (ps, required))
    {e : String × Schema} (he : e ∈ ps) {n : String} (hn : n ∈ visited e.2) : n ∈ visited x := by
  rcases Schema.properties?_eq_some h with hf | ⟨_, rfl⟩
  · rw [visited_of_fields hf, visitedFields_eq]
    exact List.mem_flatMap.2 ⟨e, he, hn⟩
  · cases he

theorem Codec.ofSchema_of_properties (root : String) {x : Schema} {ps : List (String × Schema)}
    {required : Option (List String)} (h : x.properties? = some (ps, required)) :
    ofSchema root x = .record (ofProperties root required ps) ∨
      ofSchema root x = .recursion root (.record (ofProperties root required ps)) := by
  rcases Schema.properties?_eq_some h with hf | ⟨hb, rfl⟩
  · rw [ofSchema_of_fields root hf, ofFields]
    split
    · exact .inr rfl
    · exact .inl rfl
  · exact .inl (ofSchema_of_bare root hb)

/-- What is imported for properties that may be left out is imported for one of them, or because a
definition happens to be named and placed like it. -/
theorem option_mem_imports_iff {s : Scope} {i : Import} (h : i ∈ Import.option) (x : Schema) :
    i ∈ (schema s x).imports ↔
      x.Finds Schema.HasOptional ∨ ∃ name ∈ visited x, i ∈ s.imports name := by
  have hleaf {x : Schema} (hi : i ∉ (schema s x).imports) (hx : ¬ x.Finds Schema.HasOptional)
      (hv : visited x = []) :
      i ∈ (schema s x).imports ↔
        x.Finds Schema.HasOptional ∨ ∃ name ∈ visited x, i ∈ s.imports name :=
    iff_of_false hi (by simp [hx, hv])
  have hno {x : Schema} (hp : x.properties? = none) (ha : ∀ y, x ≠ .array y)
      (hd : ∀ ps required y, x ≠ .object ps required (some (.like y))) :
      ¬ x.Finds Schema.HasOptional := by
    rw [Schema.finds_leaf hp ha hd]
    exact Schema.not_hasOptional hp
  induction x using Schema.compileInduction with
  | reference path =>
    have hx := hno (x := .reference path) rfl (by simp) (by simp)
    simp [schema, reference, visited, hx]
  | string format values =>
    refine hleaf ?_ (hno rfl (by simp) (by simp)) rfl
    have hd : ∀ i ∈ Import.option, i ∉ date.imports := by decide
    rw [schema, stringFragment]
    cases values.getD [] with
    | nil =>
      by_cases hf : format = some "date-time" <;> simp only [hf, if_true, if_false]
      · exact hd i h
      · exact List.not_mem_nil
    | cons v vs => exact List.not_mem_nil
  | boolean => exact hleaf List.not_mem_nil (hno rfl (by simp) (by simp)) rfl
  | integer format => exact hleaf List.not_mem_nil (hno rfl (by simp) (by simp)) rfl
  | number format => exact hleaf List.not_mem_nil (hno rfl (by simp) (by simp)) rfl
  | array items ih =>
    rw [Schema.finds_array, or_iff_right (Schema.not_hasOptional rfl), visited]
    exact ih
  | dictionary ps required v ih =>
    rw [Schema.finds_dictionary, or_iff_right (Schema.not_hasOptional rfl), visited]
    exact ih
  | anything ps required => exact hleaf List.not_mem_nil (hno rfl (by simp) (by simp)) rfl
  | bare x hb =>
    obtain ⟨required, hp⟩ := Schema.properties?_of_isBare hb
    refine hleaf ?_ ?_ (visited_of_bare hb)
    · rw [schema_of_bare s hb]
      exact List.not_mem_nil
    · simp [Schema.finds_properties hp, Schema.hasOptional_of_properties hp]
  | object x ps required hf ih =>
    have hp := Schema.properties?_of_fields? hf
    have hi : i ∈ (schema s x).imports ↔
        ∃ e ∈ ps, i ∈ (schema s e.2).imports ∨ Schema.isRequired required e.1 = false := by
      rw [schema_of_fields s hf, objectOf_fields]
      change i ∈ (joined s required ps).imports ↔ _
      rw [joined, Fragment.intercalate_imports _ _ rfl, fields_eq, List.flatMap_map,
        List.mem_flatMap]
      refine exists_congr fun e => and_congr_right fun _ => ?_
      rw [field_imports, List.mem_append]
      cases Schema.isRequired required e.1 <;> simp [h]
    rw [hi, Schema.finds_properties hp, Schema.hasOptional_of_properties hp, visited_of_fields hf,
      visitedFields_eq]
    constructor
    · rintro ⟨e, he, hm | hq⟩
      · rcases (ih e he).1 hm with ho | ⟨name, hn, hm⟩
        · exact .inl (.inr ⟨e, he, ho⟩)
        · exact .inr ⟨name, List.mem_flatMap.2 ⟨e, he, hn⟩, hm⟩
      · exact .inl (.inl ⟨e, he, hq⟩)
    · rintro ((⟨e, he, hq⟩ | ⟨e, he, ho⟩) | ⟨name, hn, hm⟩)
      · exact ⟨e, he, .inr hq⟩
      · exact ⟨e, he, .inl ((ih e he).2 (.inl ho))⟩
      · obtain ⟨e, he, hn⟩ := List.mem_flatMap.1 hn
        exact ⟨e, he, .inl ((ih e he).2 (.inr ⟨name, hn, hm⟩))⟩

/-- Where no definition would be placed like it, nothing else is the reason. -/
theorem option_mem_imports {s : Scope} {i : Import} (h : i ∈ Import.option)
    (hi : i.path ≠ s.relative ++ i.name) (x : Schema) :
    i ∈ (schema s x).imports ↔ x.Finds Schema.HasOptional := by
  have hIO : ∀ i ∈ Import.option, ¬ ['I', 'O'] <:+ i.name.toList := by decide
  rw [option_mem_imports_iff h, or_iff_left]
  rintro ⟨name, -, hm⟩
  unfold Scope.imports at hm
  split at hm
  · cases hm
  · rcases List.mem_cons.1 hm with rfl | hm
    · exact hi rfl
    · cases List.mem_singleton.1 hm
      exact hIO _ h ⟨name.toList, by simp [codecName]⟩

theorem option_subset_imports {s : Scope} {x : Schema} :
    Import.option ⊆ (schema s x).imports ↔ x.Finds Schema.HasOptional := by
  constructor
  · intro h
    let i : Import := ⟨"createOptionFromNullable", "io-ts-types"⟩
    have hi : i ∈ Import.option := by decide
    refine (option_mem_imports hi (fun he => ?_) x).1 (h hi)
    have hl := congrArg String.length he
    rw [String.length_append] at hl
    have hp : i.path.length = 11 := by decide
    have hq : i.name.length = 24 := by decide
    omega
  · exact fun h i hi => (option_mem_imports_iff hi x).2 (.inl h)

end Code

end TypedClient
