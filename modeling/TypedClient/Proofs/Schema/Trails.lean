import TypedClient.Proofs.Schema.Reached

/-!
Trails through a schema. A trail leads, step by step, to a part that is compiled with the schema.
The references that the compiler comes upon are those that trails lead to, and the ones in the open
are those whose trail goes into no object of fields.
-/

set_option autoImplicit false

namespace TypedClient

namespace Api

/-- To the items of an array, to the values of a dictionary, or into an object of fields, to the
property at a place. -/
inductive Step where
  | item
  | value
  | property (place : Nat)
  deriving DecidableEq, Repr

namespace Step

def isOpen : Step → Bool
  | .property _ => false
  | _ => true

/-- Two trails part in an object, the first of them to an earlier property. -/
def Before (t u : List Step) : Prop :=
  ∃ (shared : List Step) (i j : Nat) (t' u' : List Step), i < j ∧
    t = shared ++ .property i :: t' ∧ u = shared ++ .property j :: u'

theorem Before.cons {t u : List Step} (h : Before t u) (step : Step) :
    Before (step :: t) (step :: u) := by
  obtain ⟨shared, i, j, t', u', hlt, rfl, rfl⟩ := h
  exact ⟨step :: shared, i, j, t', u', hlt, rfl, rfl⟩

end Step

namespace Schema

def step? (x : Schema) : Step → Option Schema
  | .item =>
    match x with
    | .array items => some items
    | _ => none
  | .value =>
    match x with
    | .object _ _ (some (.like value)) => some value
    | _ => none
  | .property place => x.properties?.bind fun p => p.1[place]?.map Prod.snd

def at? : Schema → List Step → Option Schema
  | x, [] => some x
  | x, step :: trail => (x.step? step).bind fun y => y.at? trail

def RefersAt (x : Schema) (trail : List Step) (name : String) : Prop :=
  ∃ path, x.at? trail = some (.reference path) ∧ definitionName path = name

/-- A reference to the definition stands below the object with no other object of fields between. -/
def RefersOpenly (x : Schema) (name : String) : Prop :=
  ∃ place trail, x.RefersAt (.property place :: trail) name ∧ trail.all Step.isOpen

theorem step?_of_properties {x : Schema} {ps : List (String × Schema)}
    {required : Option (List String)} (h : x.properties? = some (ps, required)) {step : Step}
    {y : Schema} :
    x.step? step = some y ↔ ∃ place e, step = .property place ∧ ps[place]? = some e ∧ e.2 = y := by
  cases step with
  | property place => simp [step?, h]
  | _ =>
    refine iff_of_false ?_ (by simp)
    simp only [step?]
    split
    · cases h
    · simp

section RefersAt

variable {x : Schema} {trail : List Step} {name : String}

theorem refersAt_reference {path : String} :
    (reference path).RefersAt trail name ↔ trail = [] ∧ definitionName path = name := by
  cases trail with
  | nil => simp [RefersAt, at?]
  | cons step rest => cases step <;> simp [RefersAt, at?, step?, properties?]

theorem refersAt_step (h : ∀ path, x ≠ .reference path) :
    x.RefersAt trail name ↔
      ∃ step rest, trail = step :: rest ∧ ∃ y, x.step? step = some y ∧ y.RefersAt rest name := by
  cases trail with
  | nil =>
    refine iff_of_false ?_ (by simp)
    rintro ⟨path, hp, -⟩
    exact h path (Option.some.inj hp)
  | cons step rest =>
    constructor
    · rintro ⟨path, hp, hn⟩
      obtain ⟨y, hy, hp⟩ := Option.bind_eq_some_iff.1 hp
      exact ⟨step, rest, rfl, y, hy, path, hp, hn⟩
    · rintro ⟨_, _, he, y, hy, path, hp, hn⟩
      cases he
      exact ⟨path, Option.bind_eq_some_iff.2 ⟨y, hy, hp⟩, hn⟩

theorem not_refersAt (h : ∀ path, x ≠ .reference path) (hs : ∀ step, x.step? step = none) :
    ¬ x.RefersAt trail name := by
  simp [refersAt_step h, hs]

theorem refersAt_only {y : Schema} {step : Step} (h : ∀ path, x ≠ .reference path)
    (hs : ∀ other z, x.step? other = some z ↔ other = step ∧ z = y) :
    x.RefersAt trail name ↔ ∃ rest, trail = step :: rest ∧ y.RefersAt rest name := by
  simp only [refersAt_step h, hs]
  constructor
  · rintro ⟨_, rest, rfl, _, ⟨rfl, rfl⟩, hr⟩
    exact ⟨rest, rfl, hr⟩
  · rintro ⟨rest, rfl, hr⟩
    exact ⟨_, rest, rfl, _, ⟨rfl, rfl⟩, hr⟩

theorem refersAt_array :
    (array x).RefersAt trail name ↔ ∃ rest, trail = .item :: rest ∧ x.RefersAt rest name :=
  refersAt_only (by simp) fun other z => by cases other <;> simp [step?, properties?, eq_comm]

theorem refersAt_dictionary {ps : Option (List (String × Schema))}
    {required : Option (List String)} :
    (object ps required (some (.like x))).RefersAt trail name ↔
      ∃ rest, trail = .value :: rest ∧ x.RefersAt rest name :=
  refersAt_only (by simp) fun other z => by cases other <;> simp [step?, properties?, eq_comm]

theorem refersAt_of_properties {ps : List (String × Schema)} {required : Option (List String)}
    (h : x.properties? = some (ps, required)) :
    x.RefersAt trail name ↔
      ∃ place e, ps[place]? = some e ∧
        ∃ rest, trail = .property place :: rest ∧ e.2.RefersAt rest name := by
  have hr : ∀ path, x ≠ .reference path := by
    rintro path rfl
    cases h
  simp only [refersAt_step hr, step?_of_properties h]
  constructor
  · rintro ⟨_, rest, rfl, _, ⟨place, e, rfl, he, rfl⟩, hr⟩
    exact ⟨place, e, he, rest, rfl, hr⟩
  · rintro ⟨place, e, he, rest, rfl, hr⟩
    exact ⟨_, rest, rfl, _, ⟨place, e, rfl, he, rfl⟩, hr⟩

end RefersAt

end Schema

end Api

namespace Code

open Api (Schema Step)

structure Visit where
  trail : List Step
  name : String
  deriving DecidableEq

namespace Visit

def isOpen (v : Visit) : Bool := v.trail.all Step.isOpen

def Before (v w : Visit) : Prop := Step.Before v.trail w.trail

def after (step : Step) (v : Visit) : Visit := ⟨step :: v.trail, v.name⟩

theorem mem_map_after {step : Step} {vs : List Visit} {trail : List Step} {name : String} :
    ⟨trail, name⟩ ∈ vs.map (after step) ↔ ∃ rest, trail = step :: rest ∧ ⟨rest, name⟩ ∈ vs := by
  simp only [List.mem_map, after, mk.injEq]
  constructor
  · rintro ⟨v, hv, rfl, rfl⟩
    exact ⟨v.trail, rfl, hv⟩
  · rintro ⟨rest, rfl, hv⟩
    exact ⟨_, hv, rfl, rfl⟩

theorem names_after (step : Step) (vs : List Visit) :
    (vs.map (after step)).map name = vs.map name := by
  rw [List.map_map]
  rfl

theorem open_names_after {step : Step} (h : step.isOpen = true) (vs : List Visit) :
    ((vs.map (after step)).filter isOpen).map name = (vs.filter isOpen).map name := by
  have he : isOpen ∘ after step = isOpen := by
    funext v
    simp [isOpen, after, h]
  rw [List.filter_map, he, names_after]

end Visit

mutual

def visits : Schema → List Visit
  | .reference path => [⟨[], Schema.definitionName path⟩]
  | .string _ _ => []
  | .boolean => []
  | .integer _ => []
  | .number _ => []
  | .array items => (visits items).map (.after .item)
  | .object _ _ (some (.like value)) => (visits value).map (.after .value)
  | .object _ _ (some (.allowed true)) => []
  | .object none _ _ => []
  | .object (some ps) _ _ => visitsFields 0 ps
  | .untyped ps _ => visitsFields 0 ps

def visitsFields (place : Nat) : List (String × Schema) → List Visit
  | [] => []
  | (_, x) :: ps => (visits x).map (.after (.property place)) ++ visitsFields (place + 1) ps

end

theorem visitsFields_eq (place : Nat) (ps : List (String × Schema)) :
    visitsFields place ps =
      (ps.zipIdx place).flatMap fun e => (visits e.1.2).map (.after (.property e.2)) := by
  induction ps generalizing place with
  | nil => rfl
  | cons e ps ih => rw [visitsFields, ih, List.zipIdx_cons, List.flatMap_cons]

theorem visits_of_fields {x : Schema} {ps : List (String × Schema)}
    {required : Option (List String)} (h : x.fields? = some (ps, required)) :
    visits x = visitsFields 0 ps := by
  rcases Schema.fields?_eq_some h with rfl | rfl | rfl <;> rfl

theorem visits_of_bare {x : Schema} (h : x.isBare = true) : visits x = [] := by
  obtain ⟨_, rfl | rfl⟩ := Schema.isBare_eq_true h <;> rfl

theorem visits_names (x : Schema) : (visits x).map Visit.name = visited x := by
  induction x using Schema.compileInduction with
  | array items ih => rw [visits, Visit.names_after, ih, visited]
  | dictionary ps required v ih => rw [visits, Visit.names_after, ih, visited]
  | bare x h => rw [visits_of_bare h, visited_of_bare h, List.map_nil]
  | object x ps required h ih =>
    have hps : ps.flatMap (fun e => visited e.2) =
        (ps.zipIdx 0).flatMap fun e => visited e.1.2 := by
      conv => lhs; rw [← List.zipIdx_map_fst 0 ps, List.flatMap_map]
    rw [visits_of_fields h, visited_of_fields h, visitsFields_eq, visitedFields_eq, hps,
      List.map_flatMap, List.flatMap_def, List.flatMap_def]
    refine congrArg List.flatten (List.map_congr_left fun e he => ?_)
    rw [Visit.names_after, ih _ (List.fst_mem_of_mem_zipIdx he)]
  | _ => rfl

/-- The compiler comes upon the references to which trails lead, and upon no others. -/
theorem mem_visits {x : Schema} {trail : List Step} {name : String} :
    ⟨trail, name⟩ ∈ visits x ↔ x.RefersAt trail name := by
  induction x using Schema.compileInduction generalizing trail with
  | reference path => simp [visits, Schema.refersAt_reference, eq_comm]
  | array items ih => simp only [visits, Visit.mem_map_after, Schema.refersAt_array, ih]
  | dictionary ps required v ih =>
    simp only [visits, Visit.mem_map_after, Schema.refersAt_dictionary, ih]
  | bare x h =>
    obtain ⟨required, hp⟩ := Schema.properties?_of_isBare h
    simp [visits_of_bare h, Schema.refersAt_of_properties hp]
  | object x ps required h ih =>
    rw [visits_of_fields h, visitsFields_eq,
      Schema.refersAt_of_properties (Schema.properties?_of_fields? h)]
    simp only [List.mem_flatMap, List.mem_zipIdx_iff_getElem?, Visit.mem_map_after]
    constructor
    · rintro ⟨⟨e, place⟩, he, rest, rfl, hv⟩
      exact ⟨place, e, he, rest, rfl, (ih e (List.mem_of_getElem? he)).1 hv⟩
    · rintro ⟨place, e, he, rest, rfl, hr⟩
      exact ⟨⟨e, place⟩, he, rest, rfl, (ih e (List.mem_of_getElem? he)).2 hr⟩
  | _ =>
    exact iff_of_false List.not_mem_nil
      (Schema.not_refersAt (by simp) (by rintro (_ | _ | _) <;> rfl))

/-- An earlier property is gone through before a later one. -/
theorem visits_ordered (x : Schema) : (visits x).Pairwise Visit.Before := by
  have hafter {step : Step} {vs : List Visit} (h : vs.Pairwise Visit.Before) :
      (vs.map (.after step)).Pairwise Visit.Before :=
    List.pairwise_map.2 (h.imp fun hb => hb.cons step)
  induction x using Schema.compileInduction with
  | reference path => exact List.pairwise_singleton _ _
  | array items ih => exact hafter ih
  | dictionary ps required v ih => exact hafter ih
  | bare x h =>
    rw [visits_of_bare h]
    exact .nil
  | object x ps required h ih =>
    have hp : (ps.zipIdx 0).Pairwise fun e f => e.2 < f.2 := by
      rw [← List.pairwise_map (f := Prod.snd) (R := (· < ·)), List.zipIdx_map_snd]
      exact List.pairwise_lt_range'
    rw [visits_of_fields h, visitsFields_eq, List.pairwise_flatMap]
    refine ⟨fun e he => hafter (ih _ (List.fst_mem_of_mem_zipIdx he)), hp.imp fun {e f} hlt => ?_⟩
    intro v hv w hw
    obtain ⟨v, -, rfl⟩ := List.mem_map.1 hv
    obtain ⟨w, -, rfl⟩ := List.mem_map.1 hw
    exact ⟨[], e.2, f.2, v.trail, w.trail, hlt, rfl, rfl⟩
  | _ => exact .nil

/-- What stands in the open are the references whose trails go into no object of fields. -/
theorem visits_open (x : Schema) :
    ((visits x).filter Visit.isOpen).map Visit.name = exposed x := by
  induction x using Schema.compileInduction with
  | array items ih => rw [visits, Visit.open_names_after rfl, ih, exposed]
  | dictionary ps required v ih => rw [visits, Visit.open_names_after rfl, ih, exposed]
  | bare x h => rw [visits_of_bare h, exposed_of_bare h]; rfl
  | object x ps required h ih =>
    have hv : (visits x).filter Visit.isOpen = [] := by
      rw [List.filter_eq_nil_iff, visits_of_fields h, visitsFields_eq]
      intro v hv
      obtain ⟨e, -, hv⟩ := List.mem_flatMap.1 hv
      obtain ⟨v, -, rfl⟩ := List.mem_map.1 hv
      simp [Visit.isOpen, Visit.after, Step.isOpen]
    rw [hv, exposed_of_fields h, List.map_nil]
  | _ => rfl

theorem mem_exposed {x : Schema} {name : String} :
    name ∈ exposed x ↔ ∃ trail, x.RefersAt trail name ∧ trail.all Step.isOpen := by
  simp only [← visits_open, List.mem_map, List.mem_filter, ← mem_visits]
  constructor
  · rintro ⟨v, ⟨hv, ho⟩, rfl⟩
    exact ⟨v.trail, hv, ho⟩
  · rintro ⟨trail, hv, ho⟩
    exact ⟨_, ⟨hv, ho⟩, rfl⟩

/-- What the properties of an object have in the open stands openly below the object. -/
theorem mem_exposedFields {x : Schema} {ps : List (String × Schema)}
    {required : Option (List String)} (h : x.properties? = some (ps, required)) {name : String} :
    name ∈ exposedFields ps ↔ x.RefersOpenly name := by
  simp only [exposedFields, List.mem_flatMap, mem_exposed, Schema.RefersOpenly,
    Schema.refersAt_of_properties h]
  constructor
  · rintro ⟨e, he, trail, hr, ho⟩
    obtain ⟨place, he⟩ := List.mem_iff_getElem?.1 he
    exact ⟨place, trail, ⟨place, e, he, trail, rfl, hr⟩, ho⟩
  · rintro ⟨place, trail, ⟨_, e, he, _, ht, hr⟩, ho⟩
    cases ht
    exact ⟨e, List.mem_of_getElem? he, trail, hr, ho⟩

end Code

end TypedClient
