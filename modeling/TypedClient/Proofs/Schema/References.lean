import TypedClient.Code.Schema

set_option autoImplicit false

namespace TypedClient.Api.Schema

theorem sizeOf_property_lt {e : String × Schema} {ps : List (String × Schema)} (h : e ∈ ps) :
    sizeOf e.2 < sizeOf ps := by
  have he := List.sizeOf_lt_of_mem h
  cases e
  simp only [Prod.mk.sizeOf_spec] at he ⊢
  omega

theorem partsInduction {motive : Schema → Prop}
    (reference : ∀ path, motive (.reference path))
    (string : ∀ format values, motive (.string format values))
    (boolean : motive .boolean)
    (integer : ∀ format, motive (.integer format))
    (number : ∀ format, motive (.number format))
    (array : ∀ items, motive items → motive (.array items))
    (object : ∀ properties required additional,
      (∀ ps, properties = some ps → ∀ e ∈ ps, motive e.2) →
      (∀ v, additional = some (.like v) → motive v) →
      motive (.object properties required additional))
    (untyped : ∀ ps required, (∀ e ∈ ps, motive e.2) → motive (.untyped ps required)) :
    ∀ x, motive x
  | .reference path => reference path
  | .string format values => string format values
  | .boolean => boolean
  | .integer format => integer format
  | .number format => number format
  | .array items =>
    array items
      (partsInduction reference string boolean integer number array object untyped items)
  | .object properties required additional =>
    object properties required additional
      (fun ps hp e he =>
        have := sizeOf_property_lt he
        have : sizeOf e.2 < sizeOf (Schema.object properties required additional) := by
          subst hp
          simp only [Schema.object.sizeOf_spec, Option.some.sizeOf_spec]
          omega
        partsInduction reference string boolean integer number array object untyped e.2)
      (fun v hv =>
        have : sizeOf v < sizeOf (Schema.object properties required additional) := by
          subst hv
          simp only [Schema.object.sizeOf_spec, Option.some.sizeOf_spec,
            Additional.like.sizeOf_spec]
          omega
        partsInduction reference string boolean integer number array object untyped v)
  | .untyped ps required =>
    untyped ps required (fun e he =>
      have := sizeOf_property_lt he
      have : sizeOf e.2 < sizeOf (Schema.untyped ps required) := by
        simp only [Schema.untyped.sizeOf_spec]
        omega
      partsInduction reference string boolean integer number array object untyped e.2)
termination_by x => sizeOf x
decreasing_by
  · simp only [Schema.array.sizeOf_spec]; omega
  all_goals assumption

/-- The properties by which a schema is compiled, and the names of the required ones. An object
that says what its other members are like is not compiled by its properties. -/
def fields? : Schema → Option (List (String × Schema) × Option (List String))
  | .object (some ps) required none => some (ps, required)
  | .object (some ps) required (some (.allowed false)) => some (ps, required)
  | .untyped ps required => some (ps, required)
  | _ => none

def isBare : Schema → Bool
  | .object none _ none => true
  | .object none _ (some (.allowed false)) => true
  | _ => false

theorem fields?_eq_some {x : Schema} {ps : List (String × Schema)}
    {required : Option (List String)} (h : x.fields? = some (ps, required)) :
    x = .object (some ps) required none ∨ x = .object (some ps) required (some (.allowed false)) ∨
      x = .untyped ps required := by
  unfold fields? at h
  split at h <;> simp_all

theorem isBare_eq_true {x : Schema} (h : x.isBare = true) :
    ∃ required, x = .object none required none ∨
      x = .object none required (some (.allowed false)) := by
  unfold isBare at h
  split at h <;> simp_all

/-- Induction over what is compiled of a schema. -/
theorem compileInduction {motive : Schema → Prop}
    (reference : ∀ path, motive (.reference path))
    (string : ∀ format values, motive (.string format values))
    (boolean : motive .boolean)
    (integer : ∀ format, motive (.integer format))
    (number : ∀ format, motive (.number format))
    (array : ∀ items, motive items → motive (.array items))
    (dictionary : ∀ ps required v, motive v → motive (.object ps required (some (.like v))))
    (anything : ∀ ps required, motive (.object ps required (some (.allowed true))))
    (bare : ∀ x : Schema, x.isBare → motive x)
    (object : ∀ x ps required, x.fields? = some (ps, required) → (∀ e ∈ ps, motive e.2) →
      motive x)
    (x : Schema) : motive x := by
  induction x using partsInduction with
  | reference path => exact reference path
  | string format values => exact string format values
  | boolean => exact boolean
  | integer format => exact integer format
  | number format => exact number format
  | array items ih => exact array items ih
  | object properties required additional hp hv =>
    rcases additional with _ | ⟨_ | _⟩ | v
    · cases properties with
      | none => exact bare _ rfl
      | some ps => exact object _ ps required rfl (hp ps rfl)
    · cases properties with
      | none => exact bare _ rfl
      | some ps => exact object _ ps required rfl (hp ps rfl)
    · exact anything properties required
    · exact dictionary properties required v (hv v rfl)
  | untyped ps required hp => exact object _ ps required rfl hp

end TypedClient.Api.Schema

namespace TypedClient.Code

open Api (Schema Additional)

mutual

def visited : Schema → List String
  | .reference path => [Schema.definitionName path]
  | .string _ _ => []
  | .boolean => []
  | .integer _ => []
  | .number _ => []
  | .array items => visited items
  | .object _ _ (some (.like value)) => visited value
  | .object _ _ (some (.allowed true)) => []
  | .object none _ _ => []
  | .object (some ps) _ _ => visitedFields ps
  | .untyped ps _ => visitedFields ps

def visitedFields : List (String × Schema) → List String
  | [] => []
  | (_, x) :: ps => visited x ++ visitedFields ps

end

/-- The names of the references that no object of fields stands around. -/
def exposed : Schema → List String
  | .reference path => [Schema.definitionName path]
  | .array items => exposed items
  | .object _ _ (some (.like value)) => exposed value
  | _ => []

def exposedFields (ps : List (String × Schema)) : List String := ps.flatMap fun e => exposed e.2

def enclosed : Schema → List String
  | .array items => enclosed items
  | .object _ _ (some (.like value)) => enclosed value
  | .object _ _ (some (.allowed true)) => []
  | .object (some ps) _ _ => visitedFields ps
  | .untyped ps _ => visitedFields ps
  | _ => []

def enclosedFields (ps : List (String × Schema)) : List String := ps.flatMap fun e => enclosed e.2

theorem visitedFields_eq (ps : List (String × Schema)) :
    visitedFields ps = ps.flatMap fun e => visited e.2 := by
  induction ps with
  | nil => rfl
  | cons e ps ih => rw [visitedFields, ih, List.flatMap_cons]

section Shape

variable {x : Schema} {ps : List (String × Schema)} {required : Option (List String)}

theorem visited_of_fields (h : x.fields? = some (ps, required)) : visited x = visitedFields ps := by
  rcases Schema.fields?_eq_some h with rfl | rfl | rfl <;> rfl

theorem visited_of_bare (h : x.isBare = true) : visited x = [] := by
  obtain ⟨_, rfl | rfl⟩ := Schema.isBare_eq_true h <;> rfl

theorem exposed_of_fields (h : x.fields? = some (ps, required)) : exposed x = [] := by
  rcases Schema.fields?_eq_some h with rfl | rfl | rfl <;> rfl

theorem exposed_of_bare (h : x.isBare = true) : exposed x = [] := by
  obtain ⟨_, rfl | rfl⟩ := Schema.isBare_eq_true h <;> rfl

theorem enclosed_of_fields (h : x.fields? = some (ps, required)) :
    enclosed x = visitedFields ps := by
  rcases Schema.fields?_eq_some h with rfl | rfl | rfl <;> rfl

theorem enclosed_of_bare (h : x.isBare = true) : enclosed x = [] := by
  obtain ⟨_, rfl | rfl⟩ := Schema.isBare_eq_true h <;> rfl

theorem schema_of_fields (s : Scope) (h : x.fields? = some (ps, required)) :
    schema s x = objectOf s (fields s required ps) := by
  rcases Schema.fields?_eq_some h with rfl | rfl | rfl <;> rfl

theorem schema_of_bare (s : Scope) (h : x.isBare = true) :
    schema s x = Fragment.empty.object none := by
  obtain ⟨_, rfl | rfl⟩ := Schema.isBare_eq_true h <;> rfl

theorem fields_eq (s : Scope) (required : Option (List String)) (ps : List (String × Schema)) :
    fields s required ps =
      ps.map fun e => (schema s e.2).field e.1 (Schema.isRequired required e.1) := by
  induction ps with
  | nil => rfl
  | cons e ps ih => rw [fields, ih, List.map_cons]

end Shape

/-- A reference that is come upon stands in the open or has an object around it. -/
theorem mem_visited {x : Schema} {name : String} :
    name ∈ visited x ↔ name ∈ exposed x ∨ name ∈ enclosed x := by
  induction x using Schema.compileInduction with
  | reference path => simp [visited, exposed, enclosed]
  | string format values => simp [visited, exposed, enclosed]
  | boolean => simp [visited, exposed, enclosed]
  | integer format => simp [visited, exposed, enclosed]
  | number format => simp [visited, exposed, enclosed]
  | array items ih => simpa only [visited, exposed, enclosed] using ih
  | dictionary ps required v ih => simpa only [visited, exposed, enclosed] using ih
  | anything ps required => simp [visited, exposed, enclosed]
  | bare x h => simp [visited_of_bare h, exposed_of_bare h, enclosed_of_bare h]
  | object x ps required h ih =>
    simp [visited_of_fields h, exposed_of_fields h, enclosed_of_fields h]

theorem mem_visitedFields {ps : List (String × Schema)} {name : String} :
    name ∈ visitedFields ps ↔ name ∈ exposedFields ps ∨ name ∈ enclosedFields ps := by
  simp only [visitedFields_eq, exposedFields, enclosedFields, List.mem_flatMap, mem_visited]
  constructor
  · rintro ⟨e, he, h | h⟩
    · exact .inl ⟨e, he, h⟩
    · exact .inr ⟨e, he, h⟩
  · rintro (⟨e, he, h⟩ | ⟨e, he, h⟩)
    · exact ⟨e, he, .inl h⟩
    · exact ⟨e, he, .inr h⟩

end TypedClient.Code
