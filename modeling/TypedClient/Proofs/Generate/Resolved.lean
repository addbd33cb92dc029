import TypedClient.Proofs.Imports.Exact

/-!
Where the imports of generated modules lead. When every reference is to a definition of the document,
an import from a generated module finds a file of the same client that exports the name; all other
imports are from libraries.
-/

set_option autoImplicit false

namespace TypedClient

open Api (Schema PathItem Document)

namespace Code

/-- The path of a module of the client itself: it begins at the directory or above it. -/
def Import.IsRelative (i : Import) : Prop :=
  "./".toList <+: i.path.toList ∨ "../".toList <+: i.path.toList

instance (i : Import) : Decidable i.IsRelative := inferInstanceAs (Decidable (_ ∨ _))

def libraryModules : List String :=
  ["io-ts-types", "fp-ts/lib/Option", "fp-ts/lib/Reader", "rxjs/operators",
    "@devexperts/remote-data-ts", "@devexperts/rx-utils/dist/rd/live-data.utils"]

def clientNames : List String := ["ResponseValidationError", "TAPIError", "TAPIClient"]

theorem schemaHelpers_path : ∀ i ∈ schemaHelpers, ¬ i.IsRelative ∧ i.path ∈ libraryModules := by
  decide

theorem helperImports_path : ∀ i ∈ helperImports,
    (i.IsRelative ∧ i.path = clientModule ∧ i.name ∈ clientNames) ∨
      (¬ i.IsRelative ∧ i.path ∈ libraryModules) := by
  decide

def EndsLine (s : String) : Prop := s.toList.getLast? = some '\n'

instance (s : String) : Decidable (EndsLine s) := inferInstanceAs (Decidable (_ = _))

/-- A line of the module begins with the declaration of the name. -/
def Exports (content name : String) : Prop :=
  ∃ before kind after, EndsLine before ∧ kind ∈ ["type", "const", "class"] ∧
    content = before ++ ("export " ++ kind ++ " " ++ name ++ " ") ++ after

theorem endsLine_append {s : String} (a : String) (h : EndsLine s) : EndsLine (a ++ s) := by
  rw [EndsLine, String.toList_append, List.getLast?_append, h]
  rfl

theorem Exports.append_right {content name : String} (h : Exports content name) (after : String) :
    Exports (content ++ after) name := by
  obtain ⟨before, kind, rest, hb, hk, rfl⟩ := h
  exact ⟨before, kind, rest ++ after, hb, hk, String.append_assoc⟩

theorem exports_line {before line name : String} (kind after : String) (hb : EndsLine before)
    (hk : kind ∈ ["type", "const", "class"])
    (hl : line = "export " ++ kind ++ " " ++ name ++ " " ++ after) :
    Exports (before ++ line) name := by
  refine ⟨before, kind, after, hb, hk, ?_⟩
  rw [hl]
  simp only [String.append_assoc]

theorem endsLine_moduleHead (imports : List Import) : EndsLine (moduleHead imports) :=
  endsLine_append _ (by decide)

theorem definitionModule_type (name : String) (x : Schema) :
    Exports (definitionModule name x) name := by
  have hk : "export type " = "export " ++ "type" ++ " " := by decide
  have hn : " = " = " " ++ "= " := by decide
  let f := schema (definitionScope name) x
  let after := "= " ++ f.type ++ ";\nexport const " ++ codecName name ++ " = "
  refine Exports.append_right (exports_line "type" after (endsLine_moduleHead _) (by decide) ?_) _
  change "export type " ++ name ++ " = " ++ f.type ++ ";\nexport const " ++ codecName name ++
    " = " = _
  rw [hk]
  nth_rewrite 1 [hn]
  simp only [after, String.append_assoc]

theorem definitionModule_codec (name : String) (x : Schema) :
    Exports (definitionModule name x) (codecName name) := by
  have hk : ";\nexport const " = ";\n" ++ ("export " ++ "const" ++ " ") := by decide
  have hn : " = " = " " ++ "= " := by decide
  let f := schema (definitionScope name) x
  let head := moduleHead f.imports
  let before := "export type " ++ name ++ " = " ++ f.type ++ ";\n"
  refine ⟨head ++ before, "const", "= " ++ (f.codec ++ ";"),
    endsLine_append _ (endsLine_append _ (by decide)), by decide, ?_⟩
  change head ++ ("export type " ++ name ++ " = " ++ f.type ++ ";\nexport const " ++
    codecName name ++ " = ") ++ (f.codec ++ ";") = _
  rw [hk]
  nth_rewrite 2 [hn]
  simp only [before, String.append_assoc]

theorem clientModule_exports : ∀ name ∈ clientNames, Exports clientModuleText name := by
  intro name hn
  simp only [clientNames, List.mem_cons, List.not_mem_nil, or_false] at hn
  unfold clientModuleText
  -- The lines after the one that declares the name are taken away from the end.
  rcases hn with rfl | rfl | rfl
  · iterate 9 refine Exports.append_right ?_ _
    exact exports_line "class" "extends Error \x7b\n" (endsLine_append _ (by decide)) (by decide)
      (by decide)
  · iterate 15 refine Exports.append_right ?_ _
    exact exports_line "type" "= Error;\n" (endsLine_append _ (by decide)) (by decide) (by decide)
  · iterate 13 refine Exports.append_right ?_ _
    exact exports_line "type" "= \x7b\n" (endsLine_append _ (by decide)) (by decide) (by decide)

end Code

/-- One of the files stands at the path and exports the name. -/
def Supplied (files : List GeneratedFile) (path name : String) : Prop :=
  ∃ f ∈ files, f.path = path ∧ Code.Exports f.content name

/-- The import takes the type or the codec of the definition `n`, and finds it. -/
structure TakesDefinition (d : Document) (files : List GeneratedFile) (relative n : String)
    (i : Code.Import) : Prop where
  defined : n ∈ Entries.keys d.schemas
  path : i.path = relative ++ n
  name : i.name = n ∨ i.name = Code.codecName n
  supplied : Supplied files ("definitions/" ++ n ++ ".ts") i.name

structure TakesClient (files : List GeneratedFile) (i : Code.Import) : Prop where
  path : i.path = "../client/client"
  name : i.name ∈ Code.clientNames
  supplied : Supplied files "client/client.ts" i.name

section Generated

variable {d : Document} {noDocs : Bool} {files : List GeneratedFile}

theorem definitionFile_mem (h : generate d noDocs = .ok files) {e : String × Schema}
    (he : e ∈ d.schemas) : definitionFile e.1 e.2 ∈ files := by
  rw [generate_eq h]
  exact List.mem_append_left _ (List.mem_cons_of_mem _ (List.mem_map.2 ⟨e, he, rfl⟩))

theorem controllerFile_mem (h : generate d noDocs = .ok files) {e : String × OrderedMap PathItem}
    (he : e ∈ (groups d.paths).entries) : controllerFile noDocs e.1 e.2 ∈ files := by
  rw [generate_eq h]
  exact List.mem_append_right _ (List.mem_map.2 ⟨e, he, rfl⟩)

theorem clientFile_mem (h : generate d noDocs = .ok files) : clientFile ∈ files := by
  rw [generate_eq h]
  exact List.mem_append_left _ List.mem_cons_self

theorem takesDefinition (h : generate d noDocs = .ok files) {s : Code.Scope} {n : String}
    (hn : n ∈ Entries.keys d.schemas) {i : Code.Import} (hi : i ∈ s.imports n) :
    TakesDefinition d files s.relative n i := by
  obtain ⟨e, he, rfl⟩ := List.mem_map.1 hn
  have hf := definitionFile_mem h he
  rcases (Code.mem_scopeImports.1 hi).2 with rfl | rfl
  · exact ⟨hn, rfl, .inl rfl, _, hf, rfl, Code.definitionModule_type e.1 e.2⟩
  · exact ⟨hn, rfl, .inr rfl, _, hf, rfl, Code.definitionModule_codec e.1 e.2⟩

theorem takesClient (h : generate d noDocs = .ok files) {i : Code.Import}
    (hp : i.path = Code.clientModule) (hn : i.name ∈ Code.clientNames) : TakesClient files i :=
  ⟨hp, hn, _, clientFile_mem h, rfl, Code.clientModule_exports i.name hn⟩

theorem controllerNames_subset {e : String × OrderedMap PathItem}
    (he : e ∈ (groups d.paths).entries) {n : String} (hn : n ∈ Code.controllerNames e.2) :
    ∃ p ∈ d.paths.entries, n ∈ Code.itemNames p.2 := by
  obtain ⟨p, hp, hn⟩ := List.mem_flatMap.1 hn
  rw [entries_of_group he] at hp
  exact ⟨p, (List.mem_filter.1 hp).1, hn⟩

/-- When all references are to definitions of the document, every import of a module of the client
finds its file and its name: a definition takes others, a controller takes definitions and what the
client gives; whatever else is imported is from a library. -/
theorem generate_imports_resolve (h : generate d noDocs = .ok files)
    (hd : ∀ e ∈ d.schemas, ∀ n ∈ Code.visited e.2, n ∈ Entries.keys d.schemas)
    (hp : ∀ e ∈ d.paths.entries, ∀ n ∈ Code.itemNames e.2, n ∈ Entries.keys d.schemas) :
    (∀ e ∈ d.schemas, definitionFile e.1 e.2 ∈ files ∧
      ∀ i ∈ Code.definitionImports e.1 e.2,
        (i.IsRelative ∧ ∃ n, n ≠ e.1 ∧ TakesDefinition d files "./" n i) ∨
        (¬ i.IsRelative ∧ i.path ∈ Code.libraryModules)) ∧
    (∀ e ∈ (groups d.paths).entries, controllerFile noDocs e.1 e.2 ∈ files ∧
      ∀ i ∈ Code.groupImports e.1 e.2 noDocs,
        (i.IsRelative ∧
          ((∃ n, TakesDefinition d files "../definitions/" n i) ∨ TakesClient files i)) ∨
        (¬ i.IsRelative ∧ i.path ∈ Code.libraryModules)) := by
  constructor
  · intro e he
    refine ⟨definitionFile_mem h he, fun i hi => ?_⟩
    rcases Code.mem_definitionImports.1 hi with hi | ⟨n, hn, hi⟩
    · exact .inr (Code.schemaHelpers_path i (Code.Codec.helpers_subset _ hi))
    · have ht := takesDefinition h (hd e he n hn) hi
      have ho := (Code.mem_scopeImports.1 hi).1
      refine .inl ⟨.inl ?_, n, ?_, ht⟩
      · rw [ht.path, String.toList_append]
        exact List.prefix_append _ _
      · rintro rfl
        simp [Code.Scope.isOwn, Code.definitionScope] at ho
  · intro e he
    refine ⟨controllerFile_mem h he, fun i hi => ?_⟩
    rcases Code.mem_groupImports.1 hi with hi | ⟨n, hn, hi⟩
    · rcases Code.helperImports_path i (Code.controllerHelpers_subset _ _ hi) with ⟨hr, hc, hn⟩ | hl
      · exact .inl ⟨hr, .inr (takesClient h hc hn)⟩
      · exact .inr hl
    · obtain ⟨p, hpe, hn⟩ := controllerNames_subset he hn
      have ht := takesDefinition h (hp p hpe n hn) hi
      refine .inl ⟨.inr ?_, .inl ⟨n, ht⟩⟩
      have hr : "../".toList <+: Code.definitionsRelative.toList := by decide
      rw [ht.path, String.toList_append]
      exact hr.trans (List.prefix_append _ _)

end Generated

def petsDocument (definitions : OrderedMap Schema) (response : Schema) : Document :=
  let list : Api.Operation :=
    ⟨none, none, none, ["pets"], [], ⟨[("200", ⟨"", some response⟩)], by simp [Entries.keys]⟩, none⟩
  { version := "2.0"
    info := ⟨"Pets", none, "1"⟩
    host := none
    basePath := none
    definitions := some definitions
    paths := ⟨[("/pets", ⟨some list, none, none, none, none, none, none⟩)], by simp [Entries.keys]⟩
    tags := [] }

def ownedPetDocument : Document :=
  let pet : Schema := .object (some [("owner", .reference "#/definitions/Owner")]) none none
  petsDocument ⟨[("Pet", pet), ("Owner", .string none none)], by decide⟩
    (.reference "#/definitions/Pet")

theorem ownedPetDocument_owner :
    ∃ files, generate ownedPetDocument true = .ok files ∧
      ∃ n, n ≠ "Pet" ∧ TakesDefinition ownedPetDocument files "./" n ⟨"OwnerIO", "./Owner"⟩ := by
  obtain ⟨files, h⟩ : ∃ files, generate ownedPetDocument true = .ok files := ⟨_, rfl⟩
  have hi : ⟨"OwnerIO", "./Owner"⟩ ∈ Code.definitionImports "Pet"
      (.object (some [("owner", .reference "#/definitions/Owner")]) none none) := by decide +kernel
  have hr : Code.Import.IsRelative ⟨"OwnerIO", "./Owner"⟩ := by decide
  rcases ((generate_imports_resolve h (by decide) (by decide)).1 _ (.head _)).2 _ hi with ht | hl
  · exact ⟨files, h, ht.2⟩
  · exact absurd hr hl.1

end TypedClient
