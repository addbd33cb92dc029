import TypedClient.Proofs.Generate.Groups
import TypedClient.Proofs.Method.Expressions

set_option autoImplicit false

namespace TypedClient.Code

open Api (Schema SimpleParameter BodyParameter Operation PathItem)

def schemaHelpers : List Import := ⟨"DateFromISOString", "io-ts-types"⟩ :: Import.option

namespace Codec

/-- What an expression needs besides definitions. -/
def helpers (c : Codec) : List Import := c.imports fun _ => []

theorem mem_ownImports_iff {definitions : String → List Import} {c : Codec} {i : Import} :
    i ∈ c.ownImports definitions ↔
      i ∈ c.ownImports (fun _ => []) ∨ ∃ n ∈ c.ownNames, i ∈ definitions n := by
  cases c <;> simp [ownImports, ownNames]

theorem mem_imports {definitions : String → List Import} {c : Codec} {i : Import} :
    i ∈ c.imports definitions ↔ i ∈ c.helpers ∨ ∃ n ∈ c.names, i ∈ definitions n := by
  constructor
  · intro h
    obtain ⟨p, hp, h⟩ := List.mem_flatMap.1 h
    rcases mem_ownImports_iff.1 h with h | ⟨n, hn, h⟩
    · exact .inl (List.mem_flatMap.2 ⟨p, hp, h⟩)
    · exact .inr ⟨n, List.mem_flatMap.2 ⟨p, hp, hn⟩, h⟩
  · rintro (h | ⟨n, hn, h⟩)
    · obtain ⟨p, hp, h⟩ := List.mem_flatMap.1 h
      exact List.mem_flatMap.2 ⟨p, hp, mem_ownImports_iff.2 (.inl h)⟩
    · obtain ⟨p, hp, hn⟩ := List.mem_flatMap.1 hn
      exact List.mem_flatMap.2 ⟨p, hp, mem_ownImports_iff.2 (.inr ⟨n, hn, h⟩)⟩

theorem helpers_subset (c : Codec) : c.helpers ⊆ schemaHelpers := by
  intro i hi
  obtain ⟨p, _, hi⟩ := List.mem_flatMap.1 hi
  cases p with
  | date => exact List.mem_cons.2 (.inl (List.mem_singleton.1 hi))
  | option _ => exact List.mem_cons_of_mem _ hi
  | _ => exact absurd hi List.not_mem_nil

theorem names_ofParameterType (t : Api.ParameterType) : (ofParameterType t).names = [] := by
  rcases t with (_ | _ | _ | _) | (_ | _ | _ | _) | _ <;> rfl

/-- The names in the fields of a record, whether they are required or not. -/
theorem names_fields {α : Type} (name : α → String) (required : α → Bool) (expression : α → Codec)
    (xs : List α) :
    (record (xs.map fun x => fieldOf (name x) (required x) (expression x))).names =
      xs.flatMap fun x => (expression x).names := by
  have hf (x : α) : (fieldOf (name x) (required x) (expression x)).2.names =
      (expression x).names := by
    cases hr : required x with
    | true => simp [fieldOf]
    | false =>
      simp only [fieldOf, Bool.false_eq_true, if_false, names, collect_option]
      exact List.append_nil _
  rw [names, collect_record, List.flatMap_map]
  refine (List.append_nil _).trans ?_
  exact congrArg (fun f => xs.flatMap f) (funext hf)

end Codec

theorem mem_operationNames {root : String} {o : Operation} {n : String} :
    n ∈ operationNames o ↔ ∃ c ∈ operationCodecs root o, n ∈ c.names := by
  have hq : (Codec.ofQuery (o.parametersAt .query)).names = [] := by
    rw [Codec.ofQuery, Codec.names_fields, List.flatMap_eq_nil_iff]
    exact fun p _ => Codec.names_ofParameterType p.type
  have hb : (Codec.ofBody root o.bodyParameters).names =
      o.bodyParameters.flatMap fun p => visited p.schema := by
    rw [Codec.ofBody, Codec.names_fields]
    simp only [ofSchema_names]
  simp only [operationNames, operationCodecs, List.mem_append, List.mem_cons, List.mem_map,
    List.mem_flatMap]
  constructor
  · rintro (⟨x, hx, hn⟩ | ⟨p, hp, hn⟩)
    · exact ⟨_, .inr (.inr (.inr ⟨x, hx, rfl⟩)), ofSchema_names root x ▸ hn⟩
    · exact ⟨_, .inr (.inr (.inl rfl)), hb ▸ List.mem_flatMap.2 ⟨p, hp, hn⟩⟩
  · rintro ⟨c, ⟨p, _, rfl⟩ | rfl | rfl | ⟨x, hx, rfl⟩, hn⟩
    · rw [Codec.names_ofParameterType] at hn
      exact absurd hn List.not_mem_nil
    · rw [hq] at hn
      exact absurd hn List.not_mem_nil
    · rw [hb] at hn
      exact .inr (List.mem_flatMap.1 hn)
    · rw [ofSchema_names] at hn
      exact .inl ⟨x, hx, hn⟩

def operationHelpers (root : String) (o : Operation) : List Import :=
  methodImports ++ (operationCodecs root o).flatMap Codec.helpers

theorem mem_method_imports_iff {path : String} {verb : Api.Verb} {o : Operation} {root : String}
    {noDocs : Bool} {i : Import} :
    i ∈ (method path verb o root noDocs).imports ↔
      i ∈ operationHelpers root o ∨
        ∃ n ∈ operationNames o, i ∈ (controllerScope root).imports n := by
  simp only [mem_method_imports, Codec.mem_imports, operationHelpers, List.mem_append,
    List.mem_flatMap, @mem_operationNames root]
  constructor
  · rintro (h | ⟨c, hc, h | ⟨n, hn, h⟩⟩)
    · exact .inl (.inl h)
    · exact .inl (.inr ⟨c, hc, h⟩)
    · exact .inr ⟨n, ⟨c, hc, hn⟩, h⟩
  · rintro ((h | ⟨c, hc, h⟩) | ⟨n, ⟨c, hc, hn⟩, h⟩)
    · exact .inl h
    · exact .inr ⟨c, hc, .inl h⟩
    · exact .inr ⟨c, hc, .inr ⟨n, hn, h⟩⟩

theorem mem_definitionImports {name : String} {x : Schema} {i : Import} :
    i ∈ definitionImports name x ↔
      i ∈ (Codec.ofSchema name x).helpers ∨
        ∃ n ∈ visited x, i ∈ (definitionScope name).imports n := by
  rw [definitionImports, schema_imports, Codec.mem_imports, ofSchema_names]
  rfl

theorem controllerNames_eq (paths : OrderedMap PathItem) :
    controllerNames paths = (calls paths.entries).flatMap fun c => operationNames c.2.2 := by
  rw [calls, List.flatMap_assoc, controllerNames]
  simp only [itemNames, ← operations_calls, List.flatMap_map]

def controllerHelpers (root : String) (paths : OrderedMap PathItem) : List Import :=
  controllerImports ++ (calls paths.entries).flatMap fun c => operationHelpers root c.2.2

theorem mem_groupImports {group : String} {paths : OrderedMap PathItem} {noDocs : Bool}
    {i : Import} :
    i ∈ groupImports group paths noDocs ↔
      i ∈ controllerHelpers (controllerName group) paths ∨
        ∃ n ∈ controllerNames paths, i ∈ (controllerScope (controllerName group)).imports n := by
  rw [groupImports, controllerMethods_eq, Fragment.combineAll_imports, controllerNames_eq,
    controllerHelpers]
  simp only [List.mem_append, List.mem_flatMap, List.mem_map]
  constructor
  · rintro (⟨f, ⟨c, hc, rfl⟩, h⟩ | h)
    · rcases mem_method_imports_iff.1 h with h | ⟨n, hn, h⟩
      · exact .inl (.inr ⟨c, hc, h⟩)
      · exact .inr ⟨n, ⟨c, hc, hn⟩, h⟩
    · exact .inl (.inl h)
  · rintro ((h | ⟨c, hc, h⟩) | ⟨n, ⟨c, hc, hn⟩, h⟩)
    · exact .inr h
    · exact .inl ⟨_, ⟨c, hc, rfl⟩, mem_method_imports_iff.2 (.inl h)⟩
    · exact .inl ⟨_, ⟨c, hc, rfl⟩, mem_method_imports_iff.2 (.inr ⟨n, hn, h⟩)⟩

def helperImports : List Import := controllerImports ++ methodImports ++ schemaHelpers

theorem controllerHelpers_subset (root : String) (paths : OrderedMap PathItem) :
    controllerHelpers root paths ⊆ helperImports := by
  intro i hi
  rcases List.mem_append.1 hi with hi | hi
  · exact List.mem_append_left _ (List.mem_append_left _ hi)
  · obtain ⟨c, _, hi⟩ := List.mem_flatMap.1 hi
    rcases List.mem_append.1 hi with hi | hi
    · exact List.mem_append_left _ (List.mem_append_right _ hi)
    · obtain ⟨e, _, hi⟩ := List.mem_flatMap.1 hi
      exact List.mem_append_right _ (e.helpers_subset hi)

end TypedClient.Code
