import TypedClient.Proofs.Codec.Fields
import TypedClient.Proofs.Ordered.Places
import TypedClient.Proofs.Schema.Trails

/-!
Where codecs are tied to their definition. The trails of a schema lead through its expression to the
expressions of its parts; what they lead to is tied exactly when it is an object with a reference to
the definition below it and no other such object between.
-/

set_option autoImplicit false

namespace TypedClient.Code

open Api (Schema Step)

namespace Codec

/-- The codec of a property, without the wrapper of what may be left out. -/
def unwrapped : Codec → Codec
  | .option c => c
  | c => c

def fields? : Codec → Option (List (String × Codec))
  | .record fs => some fs
  | .recursion _ (.record fs) => some fs
  | _ => none

def step? (c : Codec) : Step → Option Codec
  | .item =>
    match c with
    | .array c => some c
    | _ => none
  | .value =>
    match c with
    | .dictionary c => some c
    | _ => none
  | .property place => c.fields?.bind fun fs => fs[place]?.map fun f => f.2.unwrapped

/-- What the trail leads to. -/
def at? : Codec → List Step → Option Codec
  | c, [] => some c
  | c, step :: trail => (c.step? step).bind fun d => d.at? trail

theorem unwrapped_of_isOption {c : Codec} (h : c.isOption = false) : c.unwrapped = c := by
  cases c <;> first | rfl | cases h

theorem unwrapped_ofField (root : String) (required : Option (List String)) (name : String)
    (x : Schema) : (ofField required name (ofSchema root x)).2.unwrapped = ofSchema root x := by
  unfold ofField
  split
  · exact unwrapped_of_isOption (isOption_ofSchema x)
  · rfl

theorem fields?_ofSchema (root : String) {x : Schema} {ps : List (String × Schema)}
    {required : Option (List String)} (h : x.properties? = some (ps, required)) :
    (ofSchema root x).fields? = some (ofProperties root required ps) := by
  rcases ofSchema_of_properties root h with hx | hx <;> rw [hx] <;> rfl

/-- A step of a schema is one of its expression. -/
theorem step?_ofSchema (root : String) {x y : Schema} {step : Step} (h : x.step? step = some y) :
    (ofSchema root x).step? step = some (ofSchema root y) := by
  cases step with
  | item =>
    simp only [Schema.step?] at h
    split at h <;> cases h
    rfl
  | value =>
    simp only [Schema.step?] at h
    split at h <;> cases h
    rfl
  | property place =>
    obtain ⟨⟨ps, required⟩, hp, hy⟩ := Option.bind_eq_some_iff.1 h
    obtain ⟨e, he, rfl⟩ := Option.map_eq_some_iff.1 hy
    rw [step?, fields?_ofSchema root hp, Option.bind_some, ofProperties_eq, List.getElem?_map, he,
      Option.map_some, Option.map_some, unwrapped_ofField]

theorem at?_ofSchema (root : String) {x y : Schema} {trail : List Step}
    (h : x.at? trail = some y) : (ofSchema root x).at? trail = some (ofSchema root y) := by
  induction trail generalizing x with
  | nil =>
    cases h
    rfl
  | cons step trail ih =>
    obtain ⟨z, hz, hy⟩ := Option.bind_eq_some_iff.1 h
    rw [at?, step?_ofSchema root hz, Option.bind_some, ih hy]

theorem ofSchema_tied (root : String) {x : Schema} {ps : List (String × Schema)}
    {required : Option (List String)} (h : x.properties? = some (ps, required)) :
    x.RefersOpenly root ∧
        ofSchema root x = .recursion root (.record (ofProperties root required ps)) ∨
      ¬ x.RefersOpenly root ∧ ofSchema root x = .record (ofProperties root required ps) := by
  rw [← mem_exposedFields h]
  rcases Schema.properties?_eq_some h with hf | ⟨hb, rfl⟩
  · rw [ofSchema_of_fields root hf, ofFields]
    by_cases hr : root ∈ exposedFields ps
    · exact .inl ⟨hr, if_pos hr⟩
    · exact .inr ⟨hr, if_neg hr⟩
  · exact .inr ⟨List.not_mem_nil, ofSchema_of_bare root hb⟩

end Codec

/-- The references of a compiled schema are those to which trails through no object lead, each once
and in the order in which the compiler comes upon them. At the end of every trail stands the codec
of what the trail leads to; that of an object is tied to the definition exactly when a reference to
the definition stands below the object with no other object between. -/
theorem schema_tied (s : Scope) (x : Schema) :
    (∀ trail name, ⟨trail, name⟩ ∈ visits x ↔ x.RefersAt trail name) ∧
    (visits x).Pairwise Visit.Before ∧
    (visits x).map Visit.name = (Codec.ofSchema s.root x).names ∧
    FirstPlaces (schema s x).references.items
      (((visits x).filter Visit.isOpen).map Visit.name) ∧
    (schema s x).codec = (Codec.ofSchema s.root x).text ∧
    ∀ trail y ps required, x.at? trail = some y → y.properties? = some (ps, required) →
      ∃ c fs, (Codec.ofSchema s.root x).at? trail = some c ∧ (schema s y).codec = c.text ∧
        (y.RefersOpenly s.root ∧ c = .recursion s.root (.record fs) ∨
          ¬ y.RefersOpenly s.root ∧ c = .record fs) := by
  refine ⟨fun _ _ => mem_visits, visits_ordered x, ?_, ?_, schema_codec s x, ?_⟩
  · rw [visits_names, ofSchema_names]
  · rw [schema_references, visits_open]
    exact firstPlaces_distinct _
  · intro trail y ps required hy hp
    exact ⟨_, _, Codec.at?_ofSchema s.root hy, schema_codec s y, Codec.ofSchema_tied s.root hp⟩

theorem schema_tied_thicket :
    ∃ y ps required, thicket.at? [.property 0, .item] = some y ∧
      y.properties? = some (ps, required) ∧ y.RefersOpenly "R" ∧ ¬ thicket.RefersOpenly "R" ∧
      ∃ fs, (Codec.ofSchema "R" thicket).at? [.property 0, .item] =
          some (.recursion "R" (.record fs)) ∧
        (schema ⟨"./", "R"⟩ y).codec = (Codec.recursion "R" (.record fs)).text := by
  obtain ⟨y, ps, required, hy, hp, ho⟩ : ∃ y ps required,
      thicket.at? [.property 0, .item] = some y ∧ y.properties? = some (ps, required) ∧
        y.RefersOpenly "R" :=
    ⟨_, _, _, rfl, rfl, 0, [], ⟨"#/definitions/R", rfl, by decide⟩, rfl⟩
  have hn : ¬ thicket.RefersOpenly "R" := (mem_exposedFields rfl).not.1 (by decide)
  obtain ⟨c, fs, hc, ht, ⟨-, rfl⟩ | ⟨hno, -⟩⟩ :=
    (schema_tied ⟨"./", "R"⟩ thicket).2.2.2.2.2 _ _ _ _ hy hp
  · exact ⟨y, ps, required, hy, hp, ho, hn, fs, hc, ht⟩
  · exact absurd ho hno

end TypedClient.Code
