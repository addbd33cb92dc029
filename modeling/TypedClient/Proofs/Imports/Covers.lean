import TypedClient.Code.Module
import TypedClient.Proofs.Codec.Agreement
import TypedClient.Proofs.Codec.Readable
import TypedClient.Proofs.Fragment.Split

set_option autoImplicit false

namespace TypedClient.Code

open Api (Schema Response SimpleParameter BodyParameter Operation PathItem)

def Listed (imports : List Import) (path name : String) : Prop :=
  importLine imports path ∈ importLines imports ∧ name ∈ importedNames imports path

/-- Both names that a definition gives are imported from its file. -/
def InScope (imports : List Import) (relative name : String) : Prop :=
  Listed imports (relative ++ name) name ∧ Listed imports (relative ++ name) (codecName name)

theorem mem_importedNames {imports : List Import} {path name : String} :
    name ∈ importedNames imports path ↔ ⟨name, path⟩ ∈ imports := by
  simp only [importedNames, mem_distinct, List.mem_map, List.mem_filter, beq_iff_eq]
  constructor
  · rintro ⟨i, ⟨hi, rfl⟩, rfl⟩
    exact hi
  · intro h
    exact ⟨_, ⟨h, rfl⟩, rfl⟩

theorem listed_iff {imports : List Import} {path name : String} :
    Listed imports path name ↔ ⟨name, path⟩ ∈ imports := by
  rw [Listed, mem_importedNames, and_iff_right_iff_imp]
  intro h
  exact List.mem_map_of_mem (mem_distinct.2 (List.mem_map_of_mem h))

def Import.Apart (relative : String) (i : Import) : Prop :=
  relative.toList.isPrefixOf i.path.toList = false

instance (relative : String) (i : Import) : Decidable (i.Apart relative) :=
  inferInstanceAs (Decidable (_ = false))

/-- The imports bring in the definitions with the names, as far as the scope does not take them for
its own, and from the files of definitions they bring in nothing but definitions. -/
structure Covers (s : Scope) (imports : List Import) (names : List String) : Prop where
  brings : ∀ n ∈ names, s.imports n ⊆ imports
  known : ∀ i ∈ imports, (∃ n, i ∈ s.imports n) ∨ i.Apart s.relative

theorem apart_ne {relative name : String} {i : Import} (h : i.Apart relative) :
    i.path ≠ relative ++ name := by
  intro hp
  rw [Import.Apart, hp, String.toList_append] at h
  have := List.isPrefixOf_iff_prefix.2 (List.prefix_append relative.toList name.toList)
  simp_all

theorem mem_scopeImports {s : Scope} {n : String} {i : Import} :
    i ∈ s.imports n ↔ s.isOwn n = false ∧
      (i = ⟨n, s.relative ++ n⟩ ∨ i = ⟨codecName n, s.relative ++ n⟩) := by
  unfold Scope.imports
  split <;> simp_all

/-- A definition whose references are covered is in scope unless it is taken for the own one. -/
theorem Covers.inScope_iff {s : Scope} {imports : List Import} {names : List String}
    (h : Covers s imports names) {n : String} (hn : n ∈ names) :
    InScope imports s.relative n ↔ s.isOwn n = false := by
  rw [InScope, listed_iff, listed_iff]
  constructor
  · rintro ⟨hi, _⟩
    rcases h.known _ hi with ⟨m, hm⟩ | ha
    · obtain ⟨ho, hm⟩ := mem_scopeImports.1 hm
      have hp : s.relative ++ n = s.relative ++ m := by
        rcases hm with hm | hm <;> exact congrArg Import.path hm
      rw [String.append_right_inj] at hp
      rw [hp, ho]
    · exact absurd rfl (apart_ne ha)
  · intro ho
    have hb := h.brings n hn
    exact ⟨hb (mem_scopeImports.2 ⟨ho, .inl rfl⟩), hb (mem_scopeImports.2 ⟨ho, .inr rfl⟩)⟩

namespace Covers

variable {s : Scope} {a b : List Import} {ns ms : List String}

theorem append (ha : Covers s a ns) (hb : Covers s b ms) : Covers s (a ++ b) (ns ++ ms) := by
  constructor
  · intro n hn
    rcases List.mem_append.1 hn with hn | hn
    · exact fun i hi => List.mem_append_left b (ha.brings n hn hi)
    · exact fun i hi => List.mem_append_right a (hb.brings n hn hi)
  · intro i hi
    rcases List.mem_append.1 hi with hi | hi
    · exact ha.known i hi
    · exact hb.known i hi

theorem flatMap {α : Type} {f : α → List Import} {g : α → List String} {xs : List α}
    (h : ∀ x ∈ xs, Covers s (f x) (g x)) : Covers s (xs.flatMap f) (xs.flatMap g) := by
  constructor
  · intro n hn i hi
    obtain ⟨x, hx, hn⟩ := List.mem_flatMap.1 hn
    exact List.mem_flatMap.2 ⟨x, hx, (h x hx).brings n hn hi⟩
  · intro i hi
    obtain ⟨x, hx, hi⟩ := List.mem_flatMap.1 hi
    exact (h x hx).known i hi

theorem guarded {c : Bool} (ha : Covers s a ns) (hc : c = false → ns = []) :
    Covers s (if c then a else []) ns := by
  cases c with
  | true => exact ha
  | false =>
    rw [hc rfl]
    exact ⟨fun _ hn => absurd hn List.not_mem_nil, fun _ hi => absurd hi List.not_mem_nil⟩

/-- Imports from elsewhere bring in no definition. -/
theorem elsewhere (h : ∀ i ∈ a, i.Apart s.relative) : Covers s a [] :=
  ⟨fun _ hn => absurd hn List.not_mem_nil, fun i hi => .inr (h i hi)⟩

end Covers

def Distant (relative : String) : Prop :=
  ∀ i ∈ (⟨"DateFromISOString", "io-ts-types"⟩ : Import) :: Import.option, i.Apart relative

theorem mem_ownImports {s : Scope} (hs : Distant s.relative) {c : Codec} {i : Import}
    (h : i ∈ c.ownImports s.imports) :
    (∃ n ∈ c.ownNames, i ∈ s.imports n) ∨ i.Apart s.relative := by
  cases c with
  | reference name => exact .inl ⟨name, List.mem_singleton_self name, h⟩
  | date => exact .inr (hs i (List.mem_cons.2 (.inl (List.mem_singleton.1 h))))
  | option _ => exact .inr (hs i (List.mem_cons_of_mem _ h))
  | _ => exact absurd h List.not_mem_nil

theorem ownNames_brings {s : Scope} {c : Codec} {n : String} (h : n ∈ c.ownNames) :
    s.imports n ⊆ c.ownImports s.imports := by
  cases c with
  | reference name =>
    rw [List.mem_singleton.1 h]
    exact fun i hi => hi
  | _ => exact absurd h List.not_mem_nil

theorem Codec.covers {s : Scope} (hs : Distant s.relative) (c : Codec) :
    Covers s (c.imports s.imports) c.names := by
  apply Covers.flatMap
  intro p _
  refine ⟨fun n hn => ownNames_brings hn, fun i hi => ?_⟩
  rcases mem_ownImports hs hi with ⟨n, _, hn⟩ | ha
  · exact .inl ⟨n, hn⟩
  · exact .inr ha

theorem schema_covers {s : Scope} (hs : Distant s.relative) (x : Schema) :
    Covers s (schema s x).imports (visited x) := by
  rw [schema_imports, ← ofSchema_names s.root x]
  exact Codec.covers hs _

/-- Of the fragments of one shape the first is left. -/
theorem exists_sameShape {f : Fragment} {fs : List Fragment} (h : f ∈ fs) :
    ∃ g ∈ distinctShapes fs, g.sameShape f = true := by
  induction fs with
  | nil => exact absurd h List.not_mem_nil
  | cons g fs ih =>
    rw [distinctShapes]
    by_cases hg : g.sameShape f = true
    · exact ⟨g, List.mem_cons_self, hg⟩
    · have hne : f ≠ g := by
        rintro rfl
        simp [Fragment.sameShape] at hg
      obtain ⟨e, he, hs⟩ := ih ((List.mem_cons.1 h).resolve_left hne)
      have hge : g.sameShape e = g.sameShape f := by
        simp only [Fragment.sameShape, Bool.and_eq_true, beq_iff_eq] at hs
        simp only [Fragment.sameShape, hs.1, hs.2]
      exact ⟨e, List.mem_cons_of_mem g (List.mem_filter.2 ⟨he, by simp [hge, hg]⟩), hs⟩

theorem responses_imports (s : Scope) (rs : OrderedMap Response) :
    (responses s rs).imports =
      (distinctShapes ((responseSchemas rs).map (schema s))).flatMap Fragment.imports := by
  unfold responses
  split
  · next h => rw [h]; rfl
  · next f h => rw [h]; exact (List.append_nil _).symm
  · exact Fragment.intercalate_imports _ _ rfl

/-- A response that is left out for its shape has the imports of the one that is left. -/
theorem responses_covers {s : Scope} (hs : Distant s.relative) (rs : OrderedMap Response) :
    Covers s (responses s rs).imports ((responseSchemas rs).flatMap visited) := by
  rw [responses_imports]
  constructor
  · intro n hn i hi
    obtain ⟨x, hx, hn⟩ := List.mem_flatMap.1 hn
    obtain ⟨g, hg, hsame⟩ := exists_sameShape (List.mem_map_of_mem (f := schema s) hx)
    obtain ⟨y, _, rfl⟩ := List.mem_map.1 ((distinctShapes_sublist _).subset hg)
    have hi := (schema_covers hs x).brings n hn hi
    rw [schema_imports, ← expression_of_sameShape hsame, ← schema_imports] at hi
    exact List.mem_flatMap.2 ⟨_, hg, hi⟩
  · intro i hi
    obtain ⟨f, hf, hi⟩ := List.mem_flatMap.1 hi
    obtain ⟨x, _, rfl⟩ := List.mem_map.1 ((distinctShapes_sublist _).subset hf)
    exact (schema_covers hs x).known i hi

theorem bag_imports (fields : List Bag) :
    (bag fields).fragment.imports = fields.flatMap fun b => b.fragment.imports := by
  change (intercalate bagSeparator fields).fragment.imports = _
  rw [Bag.intercalate_fragment, Fragment.intercalate_imports _ _ rfl, List.flatMap_map]

theorem parameterType_imports (t : Api.ParameterType) : (parameterType t).imports = [] := by
  rcases t with (_ | _ | _ | _) | (_ | _ | _ | _) | _ <;> rfl

theorem queryBag_covers {s : Scope} (hs : Distant s.relative) (ps : List SimpleParameter) :
    Covers s (queryBag ps).fragment.imports [] := by
  apply Covers.elsewhere
  intro i hi
  rw [queryBag, bag_imports] at hi
  obtain ⟨_, hb, hi⟩ := List.mem_flatMap.1 hi
  obtain ⟨p, _, rfl⟩ := List.mem_map.1 hb
  rw [queryField, field_imports, parameterType_imports] at hi
  split at hi
  · exact absurd hi List.not_mem_nil
  · exact hs i (List.mem_cons_of_mem _ hi)

theorem bodyBag_covers {s : Scope} (hs : Distant s.relative) (ps : List BodyParameter) :
    Covers s (bodyBag s ps).fragment.imports (ps.flatMap fun p => visited p.schema) := by
  rw [bodyBag, bag_imports, List.flatMap_map]
  apply Covers.flatMap
  intro p _
  rw [bodyField, field_imports, ← List.append_nil (visited p.schema)]
  apply (schema_covers hs p.schema).append
  apply Covers.elsewhere
  intro i hi
  split at hi
  · exact absurd hi List.not_mem_nil
  · exact hs i (List.mem_cons_of_mem _ hi)

/-- The definitions that an operation refers to: in its responses and in what its body holds. -/
def operationNames (o : Operation) : List String :=
  (responseSchemas o.responses).flatMap visited ++
    o.bodyParameters.flatMap fun p => visited p.schema

def itemNames (item : PathItem) : List String :=
  item.operations.flatMap fun e => operationNames e.2

def controllerNames (paths : OrderedMap PathItem) : List String :=
  paths.entries.flatMap fun e => itemNames e.2

def controllerScope (root : String) : Scope := ⟨definitionsRelative, root⟩

theorem distant_definitions : Distant definitionsRelative := by
  unfold Distant
  decide

theorem methodImports_apart : ∀ i ∈ methodImports, i.Apart definitionsRelative := by
  decide

theorem controllerImports_apart : ∀ i ∈ controllerImports, i.Apart definitionsRelative := by
  decide

theorem arguments_imports (ps : List SimpleParameter) :
    (ps.map argument).flatMap (fun a => a.fragment.imports) = [] := by
  rw [List.flatMap_map, List.flatMap_eq_nil_iff]
  intro p _
  exact parameterType_imports p.type

theorem method_covers (path : String) (verb : Api.Verb) (o : Operation) (root : String)
    (noDocs : Bool) :
    Covers (controllerScope root) (method path verb o root noDocs).imports (operationNames o) := by
  have hm : Covers (controllerScope root) methodImports [] := .elsewhere methodImports_apart
  have hr : Covers (controllerScope root) _ _ := responses_covers distant_definitions o.responses
  have hq : Covers (controllerScope root) _ _ :=
    (queryBag_covers distant_definitions (Inputs.of o).query).guarded (c := (Inputs.of o).hasQuery)
      fun _ => rfl
  have hb : Covers (controllerScope root) _ _ :=
    bodyBag_covers distant_definitions (Inputs.of o).body
  have hn : (Inputs.of o).hasBody = false →
      ((Inputs.of o).body.flatMap fun p => visited p.schema) = [] := by
    intro h
    have he : (Inputs.of o).body = [] := by simpa [Inputs.hasBody] using h
    rw [he, List.flatMap_nil]
  -- The fragments in the order in which a method joins them; arguments need nothing.
  have h := ((hm.append hr).append hq).append (hb.guarded hn)
  rw [List.nil_append, List.append_nil] at h
  change Covers _ (methodImports ++ _ ++ ((Inputs.of o).path.map argument).flatMap _ ++ _ ++ _) _
  rw [arguments_imports, List.append_nil]
  exact h

theorem controllerMethods_covers (name : String) (paths : OrderedMap PathItem) (noDocs : Bool) :
    Covers (controllerScope name) (controllerMethods name paths noDocs).imports
      (controllerNames paths) := by
  rw [controllerMethods, Fragment.combineAll_imports, List.flatMap_map]
  apply Covers.flatMap
  intro e _
  change Covers _ (methods e.1 e.2 name noDocs).imports (itemNames e.2)
  rw [methods, Fragment.combineAll_imports, List.flatMap_map]
  exact Covers.flatMap fun _ _ => method_covers _ _ _ _ _

end TypedClient.Code
