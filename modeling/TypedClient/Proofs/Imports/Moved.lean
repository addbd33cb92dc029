import Mathlib.Data.List.Forall2
import TypedClient.Proofs.Imports.Exact
import TypedClient.Proofs.Imports.Vocabulary
import TypedClient.Proofs.Schema.Reached

/-!
A schema in another place. Of where it stands its code shows only how to reach the definitions that
it refers to; as long as it refers to none that it is part of, all else is the same everywhere.
-/

set_option autoImplicit false

namespace TypedClient.Code

open Api (Schema)

/-- Where the definition `root` is, none of the references is taken for one to itself. -/
def Foreign (root : String) (x : Schema) : Prop :=
  ∀ n ∈ visited x, n ≠ root ∧ codecName n ≠ root

instance (root : String) (x : Schema) : Decidable (Foreign root x) :=
  inferInstanceAs (Decidable (∀ n ∈ visited x, n ≠ root ∧ codecName n ≠ root))

/-- One need in two places: of a library, or of one of the definitions, which is reached from the
first place by `r` and from the second by `r'`. -/
inductive Import.Moved (r r' : String) (definitions : List String) : Import → Import → Prop where
  | library {i : Import} : i ∈ schemaHelpers → Moved r r' definitions i i
  | definition {n name : String} : n ∈ definitions → Gives n name →
    Moved r r' definitions ⟨name, r ++ n⟩ ⟨name, r' ++ n⟩

theorem Import.Moved.name_eq {r r' : String} {definitions : List String} {i j : Import}
    (h : Moved r r' definitions i j) : i.name = j.name := by
  cases h <;> rfl

namespace Codec

theorem ofSchema_untied {root root' : String} {x : Schema} (h : root ∉ visited x)
    (h' : root' ∉ visited x) : ofSchema root x = ofSchema root' x := by
  induction x using Schema.compileInduction with
  | array items ih => exact congrArg Codec.array (ih h h')
  | dictionary ps required v ih => exact congrArg Codec.dictionary (ih h h')
  | bare x hb => rw [ofSchema_of_bare root hb, ofSchema_of_bare root' hb]
  | object x ps required hf ih =>
    have hp := Schema.properties?_of_fields? hf
    have hopen {root : String} (h : root ∉ visited x) : root ∉ exposedFields ps := by
      rw [visited_of_fields hf, mem_visitedFields] at h
      exact fun he => h (.inl he)
    rw [ofSchema_of_fields root hf, ofSchema_of_fields root' hf, ofFields, ofFields,
      if_neg (hopen h), if_neg (hopen h'), ofProperties_eq, ofProperties_eq]
    refine congrArg Codec.record (List.map_congr_left fun e he => congrArg _ (ih e he ?_ ?_))
    · exact fun hv => h (visited_property hp he hv)
    · exact fun hv => h' (visited_property hp he hv)
  | _ => rfl

theorem forall₂_imports {R : Import → Import → Prop} {f g : String → List Import} {c : Codec}
    (hl : ∀ i ∈ schemaHelpers, R i i) (hn : ∀ n ∈ c.names, List.Forall₂ R (f n) (g n)) :
    List.Forall₂ R (c.imports f) (c.imports g) := by
  have hp : List.Forall₂ (fun p q => p = q ∧ p ∈ c.parts) c.parts c.parts :=
    List.forall₂_same.2 fun p hp => ⟨rfl, hp⟩
  refine List.rel_flatMap hp fun p q h => ?_
  obtain ⟨rfl, hp⟩ := h
  cases p with
  | date => exact .cons (hl _ List.mem_cons_self) .nil
  | reference n => exact hn n (List.mem_flatMap.2 ⟨_, hp, List.mem_singleton_self n⟩)
  | option c => exact List.forall₂_same.2 fun i hi => hl i (List.mem_cons_of_mem _ hi)
  | _ => exact .nil

end Codec

theorem Foreign.not_own {s : Scope} {x : Schema} (h : Foreign s.root x) {n : String}
    (hn : n ∈ visited x) : s.isOwn n = false := by
  obtain ⟨hne, hnc⟩ := h n hn
  simp [Scope.isOwn, hne.symm, hnc.symm]

theorem scopeImports_moved {s t : Scope} {n : String} {definitions : List String}
    (hs : s.isOwn n = false) (ht : t.isOwn n = false) (hn : n ∈ definitions) :
    List.Forall₂ (Import.Moved s.relative t.relative definitions) (s.imports n) (t.imports n) := by
  rw [Scope.imports, Scope.imports, hs, ht]
  exact .cons (.definition hn (.inl rfl)) (.cons (.definition hn (.inr rfl)) .nil)

/-- Two places in which a schema refers to nothing that it is part of show the same types and codecs
and the same references of it, and need the same of other modules, one after the other. -/
theorem schema_moved {s t : Scope} {x : Schema} (hs : Foreign s.root x) (ht : Foreign t.root x) :
    (schema s x).type = (schema t x).type ∧ (schema s x).codec = (schema t x).codec ∧
    (schema s x).references.items = (schema t x).references.items ∧
    (schema s x).imports.map Import.name = (schema t x).imports.map Import.name ∧
    List.Forall₂ (Import.Moved s.relative t.relative (visited x))
      (schema s x).imports (schema t x).imports := by
  have hc : Codec.ofSchema s.root x = Codec.ofSchema t.root x :=
    Codec.ofSchema_untied (fun h => (hs _ h).1 rfl) fun h => (ht _ h).1 rfl
  have hi : List.Forall₂ (Import.Moved s.relative t.relative (visited x))
      (schema s x).imports (schema t x).imports := by
    rw [schema_imports, schema_imports, hc]
    refine Codec.forall₂_imports (fun _ => .library) fun n hn => ?_
    rw [ofSchema_names] at hn
    exact scopeImports_moved (hs.not_own hn) (ht.not_own hn) hn
  refine ⟨?_, ?_, ?_, ?_, hi⟩
  · rw [schema_type, schema_type, hc]
  · rw [schema_codec, schema_codec, hc]
  · rw [schema_references, schema_references]
  · rw [← List.forall₂_eq_eq_eq, List.forall₂_map_left_iff, List.forall₂_map_right_iff]
    exact hi.imp fun _ _ h => h.name_eq

def visit : Schema :=
  .object
    (some
      [("by", .reference "#/definitions/Vet"), ("on", .string (some "date-time") none),
        ("to", .array (.untyped [("pet", .reference "#/definitions/Pet")] (some ["pet"])))])
    (some ["on", "to"]) none

theorem schema_moved_visit :
    Foreign "Visit" visit ∧ Foreign "VisitsController" visit ∧
    (schema ⟨"./", "Visit"⟩ visit).codec =
      (schema ⟨"../definitions/", "VisitsController"⟩ visit).codec ∧
    List.Forall₂ (Import.Moved "./" "../definitions/" ["Vet", "Pet"])
      (schema ⟨"./", "Visit"⟩ visit).imports
      (schema ⟨"../definitions/", "VisitsController"⟩ visit).imports := by
  have hs : Foreign "Visit" visit := by decide
  have ht : Foreign "VisitsController" visit := by decide
  obtain ⟨-, hc, -, -, hi⟩ :=
    schema_moved (s := ⟨"./", "Visit"⟩) (t := ⟨"../definitions/", "VisitsController"⟩) hs ht
  exact ⟨hs, ht, hc, hi⟩

end TypedClient.Code
