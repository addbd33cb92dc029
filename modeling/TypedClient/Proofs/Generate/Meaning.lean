import TypedClient.Proofs.Generate.Resolved
import TypedClient.Proofs.Imports.Vocabulary
import TypedClient.Proofs.Text.WordCase

/-!
When the names in a generated module mean one thing each. Definitions keep their names wherever they
go, and so do the helpers and the global types that the generated code uses: a document can bring
together two that are the same.
-/

set_option autoImplicit false

namespace TypedClient

open Api (Schema PathItem Document)

namespace Code

def globalTypes : List String := ["Array", "Date"]

def StaticType.ownGlobals : StaticType → List String
  | .array _ => ["Array"]
  | .date => ["Date"]
  | _ => []

/-- The global types in the type of what a codec gives: every part of an expression has its type
there. -/
def Codec.globals : Codec → List String := collect fun c => c.static.ownGlobals

theorem StaticType.ownGlobals_subset (t : StaticType) : t.ownGlobals ⊆ globalTypes := by
  intro g hg
  cases t with
  | array _ => exact List.mem_cons.2 (.inl (List.mem_singleton.1 hg))
  | date => exact List.mem_cons_of_mem _ hg
  | _ => exact absurd hg List.not_mem_nil

theorem Codec.globals_subset (c : Codec) : c.globals ⊆ globalTypes := by
  intro g hg
  obtain ⟨p, _, hg⟩ := List.mem_flatMap.1 hg
  exact p.static.ownGlobals_subset hg

def codecLibrary : Import := ⟨"t", "io-ts"⟩

def standardImports : List Import := codecLibrary :: helperImports

def definitionWords (name : String) (x : Schema) : Vocabulary :=
  ⟨codecLibrary :: (Codec.ofSchema name x).helpers, [], (Codec.ofSchema name x).globals⟩

def controllerWords (group : String) (paths : OrderedMap PathItem) : Vocabulary :=
  let root := controllerName group
  ⟨codecLibrary :: controllerHelpers root paths, [root, Text.camelCase root],
    (calls paths.entries).flatMap fun c => (operationCodecs root c.2.2).flatMap Codec.globals⟩

def controllerEnding : List Char := "ontroller".toList

theorem controllerName_ending (group : String) :
    controllerEnding <:+ (controllerName group).toList := by
  have hc : controllerEnding <:+ "Controller".toList := by decide
  rw [controllerName, String.toList_append]
  exact hc.trans (List.suffix_append _ _)

theorem camelCase_ending (group : String) :
    controllerEnding <:+ (Text.camelCase (controllerName group)).toList := by
  have hc : "Controller" = String.ofList ('C' :: controllerEnding) := by decide
  have ha : ('C' :: controllerEnding).all Text.isAlphanumeric = true := by decide +kernel
  have hu : controllerEnding.all (fun d => !Text.isUpper d) = true := by decide +kernel
  have hl : Text.lowerWord controllerEnding = controllerEnding := by decide +kernel
  obtain ⟨p, hp⟩ := Text.camelCase_append (List.all_eq_true.1 ha)
    (by simpa [List.all_eq_true] using hu) (by decide) group
  rw [controllerName, hc, hp, hl]
  exact List.suffix_append _ _

/-- Words as modules have them: helpers, names of controllers and global types. -/
structure Vocabulary.Standard (words : Vocabulary) : Prop where
  imports : words.imports ⊆ standardImports
  declared : ∀ w ∈ words.declared, controllerEnding <:+ w.toList
  globals : words.globals ⊆ globalTypes

theorem controllerEnding_not_codecName {w : String} (h : controllerEnding <:+ w.toList) :
    ¬ "IO".toList <:+ w.toList := by
  intro hio
  obtain ⟨p, hp⟩ := h
  obtain ⟨q, hq⟩ := hio
  have hl := congrArg List.getLast? (hp.trans hq.symm)
  rw [List.getLast?_append, List.getLast?_append] at hl
  have hl : some 'r' = some 'O' := hl
  exact absurd hl (by decide)

theorem Vocabulary.Standard.plain {words : Vocabulary} (h : words.Standard) {relative : String}
    (ha : ∀ i ∈ standardImports, i.Apart relative) : words.Plain relative := by
  have hsource : ∀ i ∈ standardImports, ∀ j ∈ standardImports, i.name = j.name → i.path = j.path := by
    decide
  have hending : ∀ i ∈ standardImports, ¬ controllerEnding <:+ i.name.toList := by decide
  have hglobal : ∀ g ∈ globalTypes, ¬ controllerEnding <:+ g.toList ∧
      ∀ i ∈ standardImports, i.name ≠ g := by decide
  have hcodec : (∀ i ∈ standardImports, ¬ "IO".toList <:+ i.name.toList) ∧
      ∀ g ∈ globalTypes, ¬ "IO".toList <:+ g.toList := by decide
  refine ⟨⟨?_, ?_, ?_⟩, ?_, fun i hi => ha i (h.imports hi)⟩
  · exact fun i hi j hj => hsource i (h.imports hi) j (h.imports hj)
  · exact fun i hi hd => hending i (h.imports hi) (h.declared _ hd)
  · intro g hg
    have hg := hglobal g (h.globals hg)
    exact ⟨fun hd => hg.1 (h.declared g hd), fun i hi => hg.2 i (h.imports hi)⟩
  · intro w hw
    rcases Vocabulary.mem_names.1 hw with ⟨i, hi, rfl⟩ | hw | hw
    · exact not_codecName (hcodec.1 i (h.imports hi))
    · exact not_codecName (controllerEnding_not_codecName (h.declared w hw))
    · exact not_codecName (hcodec.2 w (h.globals hw))

theorem definitionWords_plain (name : String) (x : Schema) :
    (definitionWords name x).Plain "./" := by
  refine Vocabulary.Standard.plain ⟨?_, ?_, ?_⟩ (by unfold Import.Apart; decide)
  · refine List.cons_subset_cons _ fun i hi => ?_
    exact List.mem_append_right _ (Codec.helpers_subset _ hi)
  · exact fun _ hw => absurd hw List.not_mem_nil
  · exact Codec.globals_subset _

theorem controllerWords_plain (group : String) (paths : OrderedMap PathItem) :
    (controllerWords group paths).Plain definitionsRelative := by
  refine Vocabulary.Standard.plain ⟨?_, ?_, ?_⟩ (by unfold Import.Apart; decide)
  · exact List.cons_subset_cons _ (controllerHelpers_subset _ _)
  · intro w hw
    rcases List.mem_pair.1 hw with rfl | rfl
    · exact controllerName_ending group
    · exact camelCase_ending group
  · intro g hg
    obtain ⟨_, _, hg⟩ := List.mem_flatMap.1 hg
    obtain ⟨c, _, hg⟩ := List.mem_flatMap.1 hg
    exact c.globals_subset hg

def definitionVocabulary (name : String) (x : Schema) : Vocabulary :=
  ⟨codecLibrary :: definitionImports name x, [name, codecName name],
    (definitionWords name x).globals⟩

def controllerVocabulary (group : String) (paths : OrderedMap PathItem) (noDocs : Bool) :
    Vocabulary :=
  ⟨codecLibrary :: groupImports group paths noDocs, (controllerWords group paths).declared,
    (controllerWords group paths).globals⟩

/-- The text begins with the imports and exports what is declared. -/
structure Vocabulary.WrittenIn (v : Vocabulary) (content : String) : Prop where
  head : ∃ imports text, v.imports = codecLibrary :: imports ∧ content = moduleHead imports ++ text
  exported : ∀ w ∈ v.declared, Exports content w

theorem definitionVocabulary_written (name : String) (x : Schema) :
    (definitionVocabulary name x).WrittenIn (definitionModule name x) := by
  constructor
  · obtain ⟨text, h⟩ := definitionModule_head name x
    exact ⟨_, text, rfl, h⟩
  · intro w hw
    rcases List.mem_pair.1 hw with rfl | rfl
    · exact definitionModule_type _ x
    · exact definitionModule_codec _ x

theorem controllerModule_type (group : String) (paths : OrderedMap PathItem) (noDocs : Bool) :
    Exports (controllerModule group paths noDocs) (controllerName group) := by
  have hk : "export type " = "export " ++ "type" ++ " " := by decide
  have hn : " = \x7b\n" = " " ++ "= \x7b\n" := by decide
  rw [controllerModule_text, controllerText, hk, hn]
  iterate 10 refine Exports.append_right ?_ _
  refine ⟨moduleHead (groupImports group paths noDocs), "type", "= \x7b\n",
    endsLine_moduleHead _, by decide, ?_⟩
  simp only [String.append_assoc]

theorem controllerModule_value (group : String) (paths : OrderedMap PathItem) (noDocs : Bool) :
    Exports (controllerModule group paths noDocs) (Text.camelCase (controllerName group)) := by
  have hk : "export const " = "export " ++ "const" ++ " " := by decide
  have hn : " = asks((e: \x7b apiClient: TAPIClient \x7d): " =
      " " ++ "= asks((e: \x7b apiClient: TAPIClient \x7d): " := by decide
  rw [controllerModule_text, controllerText, hk, hn]
  iterate 5 refine Exports.append_right ?_ _
  let before := moduleHead (groupImports group paths noDocs) ++ "export type " ++
    controllerName group ++ " = \x7b\n" ++
    (controllerMethods (controllerName group) paths noDocs).type
  refine ⟨before ++ "\x7d;\n\n", "const", "= asks((e: \x7b apiClient: TAPIClient \x7d): ",
    endsLine_append _ (by decide), by decide, ?_⟩
  simp only [before, String.append_assoc]

theorem controllerVocabulary_written (group : String) (paths : OrderedMap PathItem)
    (noDocs : Bool) :
    (controllerVocabulary group paths noDocs).WrittenIn (controllerModule group paths noDocs) := by
  constructor
  · obtain ⟨text, h⟩ := controllerModule_head group paths noDocs
    exact ⟨_, text, rfl, h⟩
  · intro w hw
    rcases List.mem_pair.1 hw with rfl | rfl
    · exact controllerModule_type group paths noDocs
    · exact controllerModule_value group paths noDocs

/-- What a scope brings in of a definition that it does not take for its own. -/
theorem mem_imports_iff_gives {s : Scope} {n : String} (ho : s.isOwn n = false) {i : Import} :
    i ∈ s.imports n ↔ Gives n i.name ∧ i.path = s.relative ++ n := by
  obtain ⟨name, path⟩ := i
  rw [mem_scopeImports, and_iff_right ho, Import.mk.injEq, Import.mk.injEq, ← or_and_right]
  rfl

theorem definitionVocabulary_extends {name : String} {x : Schema}
    (h : ∀ n ∈ visited x, codecName n ≠ name) :
    (definitionVocabulary name x).Extends (definitionWords name x) "./" (some name)
      (visited x) := by
  have hown {n : String} (hn : n ∈ visited x) :
      (definitionScope name).isOwn n = false ↔ n ∉ some name := by
    simp [Scope.isOwn, definitionScope, (h n hn).symm]
  refine ⟨fun i => ?_, fun w => ?_, rfl⟩
  · simp only [definitionVocabulary, definitionWords, List.mem_cons, mem_definitionImports, or_assoc]
    refine or_congr_right (or_congr_right (exists_congr fun n => and_congr_right fun hn => ?_))
    -- A reference of the definition to itself brings in nothing, on both sides.
    by_cases ho : (definitionScope name).isOwn n = false
    · rw [mem_imports_iff_gives ho, and_iff_right ((hown hn).1 ho)]
      rfl
    · rw [mem_scopeImports, ← hown hn]
      simp [ho]
  · simp [definitionVocabulary, definitionWords, Gives]

theorem controllerVocabulary_extends {group : String} {paths : OrderedMap PathItem} (noDocs : Bool)
    (h : controllerName group ∉ controllerNames paths) :
    (controllerVocabulary group paths noDocs).Extends (controllerWords group paths)
      definitionsRelative none (controllerNames paths) := by
  refine ⟨fun i => ?_, fun w => ?_, rfl⟩
  · simp only [controllerVocabulary, controllerWords, List.mem_cons, mem_groupImports, or_assoc]
    refine or_congr_right (or_congr_right (exists_congr fun n => and_congr_right fun hn => ?_))
    have ho : (controllerScope (controllerName group)).isOwn n = false := by
      have hne : controllerName group ≠ n := fun he => h (he ▸ hn)
      simp [Scope.isOwn, controllerScope, hne, controllerName_ne_codecName]
    exact (mem_imports_iff_gives ho).trans (and_iff_right (by simp)).symm
  · simp [controllerVocabulary]

end Code

/-- In the module of a definition, and in a controller, every name has one meaning exactly when the
definitions in it, the one that it declares included, are named apart: none as the codec of another,
and none as a helper that it imports, a global type that it uses or a name of the controller.
Left out are definitions and controllers that take one that they refer to for their own. -/
theorem generate_oneMeaning_iff {d : Document} {noDocs : Bool} {files : List GeneratedFile}
    (h : generate d noDocs = .ok files) :
    (∀ e ∈ d.schemas, definitionFile e.1 e.2 ∈ files ∧
      (Code.definitionVocabulary e.1 e.2).WrittenIn (definitionFile e.1 e.2).content ∧
      ((∀ n ∈ Code.visited e.2, Code.codecName n ≠ e.1) →
        ((Code.definitionVocabulary e.1 e.2).OneMeaning ↔
          Code.NamedApart (e.1 :: Code.visited e.2) (Code.definitionWords e.1 e.2).names))) ∧
    (∀ e ∈ (groups d.paths).entries, controllerFile noDocs e.1 e.2 ∈ files ∧
      (Code.controllerVocabulary e.1 e.2 noDocs).WrittenIn
        (controllerFile noDocs e.1 e.2).content ∧
      (Code.controllerName e.1 ∉ Code.controllerNames e.2 →
        ((Code.controllerVocabulary e.1 e.2 noDocs).OneMeaning ↔
          Code.NamedApart (Code.controllerNames e.2) (Code.controllerWords e.1 e.2).names))) := by
  constructor
  · intro e he
    refine ⟨definitionFile_mem h he, Code.definitionVocabulary_written e.1 e.2, fun hr => ?_⟩
    exact (Code.definitionVocabulary_extends hr).oneMeaning_iff
      (Code.definitionWords_plain e.1 e.2) fun _ _ => List.not_mem_nil
  · intro e he
    refine ⟨controllerFile_mem h he, Code.controllerVocabulary_written e.1 e.2 noDocs, fun hr => ?_⟩
    exact (Code.controllerVocabulary_extends noDocs hr).oneMeaning_iff
      (Code.controllerWords_plain e.1 e.2) fun _ hn => nomatch hn

theorem ownedPetDocument_oneMeaning :
    ∃ files pet, generate ownedPetDocument true = .ok files ∧
      ("Pet", pet) ∈ ownedPetDocument.schemas ∧ (Code.definitionVocabulary "Pet" pet).OneMeaning ∧
      (Code.controllerVocabulary "Pets" ownedPetDocument.paths true).OneMeaning := by
  obtain ⟨files, h⟩ : ∃ files, generate ownedPetDocument true = .ok files := ⟨_, rfl⟩
  obtain ⟨hd, hc⟩ := generate_oneMeaning_iff h
  have he : (_, _) ∈ ownedPetDocument.schemas := .head _
  refine ⟨files, _, h, he, ?_, ?_⟩
  · exact ((hd _ he).2.2 (by decide)).2 ⟨by decide, by decide⟩
  · exact ((hc ("Pets", ownedPetDocument.paths) (.head _)).2.2 (by decide)).2
      ⟨by decide, by decide +kernel⟩

def clashingDocument : Document :=
  let holder : Schema := .object (some [("o", .reference "#/definitions/Option")]) none none
  petsDocument
    ⟨[("Option", .boolean), ("Holder", holder), ("Array", .array .boolean),
      ("Pet", .reference "#/definitions/PetIO"), ("PetIO", .boolean), ("TAPIError", .boolean)],
      by decide⟩
    (.reference "#/definitions/TAPIError")

/-- In the file of the holder `Option` comes from two modules, and so does `TAPIError` in the
controller; `PetIO` is imported where it is declared; an array of booleans is called `Array`. -/
theorem clashingDocument_meanings :
    ∃ files holder, generate clashingDocument true = .ok files ∧
      definitionFile "Holder" holder ∈ files ∧
        ¬ (Code.definitionVocabulary "Holder" holder).OneMeaning ∧
      definitionFile "Pet" (.reference "#/definitions/PetIO") ∈ files ∧
        ¬ (Code.definitionVocabulary "Pet" (.reference "#/definitions/PetIO")).OneMeaning ∧
      definitionFile "Array" (.array .boolean) ∈ files ∧
        ¬ (Code.definitionVocabulary "Array" (.array .boolean)).OneMeaning ∧
      controllerFile true "Pets" clashingDocument.paths ∈ files ∧
        ¬ (Code.controllerVocabulary "Pets" clashingDocument.paths true).OneMeaning := by
  obtain ⟨files, h⟩ : ∃ files, generate clashingDocument true = .ok files := ⟨_, rfl⟩
  have hholder := definitionFile_mem h (e := ("Holder", _)) (.tail _ (.head _))
  have hpet := definitionFile_mem h (e := ("Pet", _)) (.tail _ (.tail _ (.tail _ (.head _))))
  have harray := definitionFile_mem h (e := ("Array", _)) (.tail _ (.tail _ (.head _)))
  have hpets := controllerFile_mem h (e := ("Pets", clashingDocument.paths)) (.head _)
  refine ⟨files, _, h, hholder, fun hv => ?_, hpet, fun hv => ?_, harray, fun hv => ?_, hpets,
    fun hv => ?_⟩
  · exact absurd (hv.source ⟨"Option", "fp-ts/lib/Option"⟩ (by decide) ⟨"Option", "./Option"⟩
      (by decide) rfl) (by decide)
  · exact absurd (by decide) (hv.foreign ⟨"PetIO", "./PetIO"⟩ (by decide))
  · exact absurd (by decide) (hv.global "Array" (by decide)).1
  · exact absurd (hv.source ⟨"TAPIError", "../client/client"⟩ (by decide)
      ⟨"TAPIError", "../definitions/TAPIError"⟩ (by decide) rfl) (by decide)

end TypedClient
