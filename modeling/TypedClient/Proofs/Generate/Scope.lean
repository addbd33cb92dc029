import TypedClient.Generate
import TypedClient.Proofs.Imports.Covers

set_option autoImplicit false

namespace TypedClient

open Api (Schema PathItem Document)

theorem definitionFiles_eq {ds : List (String × Schema)} {files : List GeneratedFile}
    (h : definitionFiles ds = .ok files) : files = ds.map fun e => definitionFile e.1 e.2 := by
  induction ds generalizing files with
  | nil => exact (Except.ok.inj h).symm
  | cons e ds ih =>
    rw [definitionFiles] at h
    split at h
    · cases hd : definitionFiles ds with
      | error u => rw [hd] at h; cases h
      | ok rest =>
        rw [hd] at h
        rw [← Except.ok.inj h, ih hd, List.map_cons]
    · cases h

theorem generate_eq {d : Document} {noDocs : Bool} {files : List GeneratedFile}
    (h : generate d noDocs = .ok files) :
    files = clientFile :: d.schemas.map (fun e => definitionFile e.1 e.2) ++
      (groups d.paths).entries.map fun e => controllerFile noDocs e.1 e.2 := by
  unfold generate at h
  cases hd : definitionFiles d.schemas with
  | error u => rw [hd] at h; cases h
  | ok ds =>
    rw [hd] at h
    rw [← Except.ok.inj h, definitionFiles_eq hd]

namespace Code

def definitionImports (name : String) (x : Schema) : List Import :=
  (schema (definitionScope name) x).imports

def groupImports (group : String) (paths : OrderedMap PathItem) (noDocs : Bool) : List Import :=
  (controllerMethods (controllerName group) paths noDocs).imports ++ controllerImports

theorem definitionModule_head (name : String) (x : Schema) :
    ∃ text, definitionModule name x = moduleHead (definitionImports name x) ++ text :=
  ⟨_, String.append_assoc⟩

theorem controllerModule_head (group : String) (paths : OrderedMap PathItem) (noDocs : Bool) :
    ∃ text, controllerModule group paths noDocs =
      moduleHead (groupImports group paths noDocs) ++ text := by
  unfold controllerModule
  simp only [String.append_assoc]
  exact ⟨_, rfl⟩

theorem controllerName_ne_codecName (group name : String) :
    controllerName group ≠ codecName name := by
  intro h
  have h := congrArg (fun s : String => s.toList.getLast?) h
  simp [controllerName, codecName] at h

theorem definition_inScope_iff (name : String) (x : Schema) {n : String} (hn : n ∈ visited x)
    (hne : n ≠ name) : InScope (definitionImports name x) "./" n ↔ name ≠ codecName n := by
  have hd : Distant "./" := by
    unfold Distant
    decide
  have h := (schema_covers (s := definitionScope name) hd x).inScope_iff hn
  refine h.trans ?_
  simp [Scope.isOwn, definitionScope, hne.symm]

theorem controller_inScope_iff (group : String) (paths : OrderedMap PathItem) (noDocs : Bool)
    {n : String} (hn : n ∈ controllerNames paths) :
    InScope (groupImports group paths noDocs) definitionsRelative n ↔ controllerName group ≠ n := by
  have h := (controllerMethods_covers (controllerName group) paths noDocs).append
    (Covers.elsewhere (s := controllerScope (controllerName group)) controllerImports_apart)
  rw [List.append_nil] at h
  refine (h.inScope_iff hn).trans ?_
  simp [Scope.isOwn, controllerScope, controllerName_ne_codecName]

end Code

/-- A module brings in every definition that it refers to and does not take for its own: a
definition takes one whose codec has its name for its own, a controller one that has its name. -/
theorem generate_inScope {d : Document} {noDocs : Bool} {files : List GeneratedFile}
    (h : generate d noDocs = .ok files) :
    (∀ f ∈ files, f = clientFile ∨ (∃ e ∈ d.schemas, f = definitionFile e.1 e.2) ∨
      ∃ e ∈ (groups d.paths).entries, f = controllerFile noDocs e.1 e.2) ∧
    (∀ e ∈ d.schemas,
      (∃ text, (definitionFile e.1 e.2).content =
        Code.moduleHead (Code.definitionImports e.1 e.2) ++ text) ∧
      ∀ n ∈ Code.visited e.2, n ≠ e.1 →
        (Code.InScope (Code.definitionImports e.1 e.2) "./" n ↔ e.1 ≠ Code.codecName n)) ∧
    (∀ e ∈ (groups d.paths).entries,
      (∃ text, (controllerFile noDocs e.1 e.2).content =
        Code.moduleHead (Code.groupImports e.1 e.2 noDocs) ++ text) ∧
      ∀ n ∈ Code.controllerNames e.2,
        (Code.InScope (Code.groupImports e.1 e.2 noDocs) "../definitions/" n ↔
          Code.controllerName e.1 ≠ n)) := by
  refine ⟨?_, ?_, ?_⟩
  · intro f hf
    rw [generate_eq h] at hf
    rcases List.mem_append.1 hf with hf | hf
    · rcases List.mem_cons.1 hf with rfl | hf
      · exact .inl rfl
      · obtain ⟨e, he, rfl⟩ := List.mem_map.1 hf
        exact .inr (.inl ⟨e, he, rfl⟩)
    · obtain ⟨e, he, rfl⟩ := List.mem_map.1 hf
      exact .inr (.inr ⟨e, he, rfl⟩)
  · intro e _
    exact ⟨Code.definitionModule_head e.1 e.2,
      fun n hn hne => Code.definition_inScope_iff e.1 e.2 hn hne⟩
  · intro e _
    exact ⟨Code.controllerModule_head e.1 e.2 noDocs,
      fun n hn => Code.controller_inScope_iff e.1 e.2 noDocs hn⟩

/-- A definition named as the codec of another that it refers to, and a controller named as the
definition that its only response is. -/
def petDocument : Document :=
  let response : Api.Response := ⟨"", some (.reference "#/definitions/PetsController")⟩
  let list : Api.Operation :=
    ⟨none, none, none, ["pets"], [], ⟨[("200", response)], by decide⟩, none⟩
  let item : PathItem := ⟨some list, none, none, none, none, none, none⟩
  { version := "2.0"
    info := ⟨"Pets", none, "1"⟩
    host := none
    basePath := none
    definitions :=
      some ⟨[("Pet", .boolean), ("PetIO", .reference "#/definitions/Pet")], by decide⟩
    paths := ⟨[("/pets", item)], by decide⟩
    tags := [] }

theorem generate_petDocument :
    generate petDocument true =
      .ok [clientFile, definitionFile "Pet" .boolean,
        definitionFile "PetIO" (.reference "#/definitions/Pet"),
        controllerFile true "Pets" petDocument.paths] := by
  rfl

theorem petDocument_scope :
    ("PetIO", .reference "#/definitions/Pet") ∈ petDocument.schemas ∧
      (Code.InScope (Code.definitionImports "PetIO" (.reference "#/definitions/Pet")) "./" "Pet" ↔
        "PetIO" ≠ Code.codecName "Pet") :=
  have he : ("PetIO", .reference "#/definitions/Pet") ∈ petDocument.schemas := .tail _ (.head _)
  ⟨he, ((generate_inScope generate_petDocument).2.1 _ he).2 "Pet" (by decide) (by decide)⟩

theorem petDocument_out_of_scope :
    (∃ files, generate petDocument true = .ok files ∧
      definitionFile "PetIO" (.reference "#/definitions/Pet") ∈ files ∧
      controllerFile true "Pets" petDocument.paths ∈ files) ∧
    "Pet" ∈ Code.visited (.reference "#/definitions/Pet") ∧
      ¬ Code.InScope (Code.definitionImports "PetIO" (.reference "#/definitions/Pet")) "./" "Pet" ∧
    "PetsController" ∈ Code.controllerNames petDocument.paths ∧
      ¬ Code.InScope (Code.groupImports "Pets" petDocument.paths true) "../definitions/"
        "PetsController" := by
  refine ⟨⟨_, generate_petDocument, by simp, by simp⟩, by decide, ?_, by decide, ?_⟩
  · rw [Code.definition_inScope_iff _ _ (by decide) (by decide)]
    decide
  · rw [← Code.definitionsRelative, Code.controller_inScope_iff _ _ _ (by decide)]
    decide

end TypedClient
