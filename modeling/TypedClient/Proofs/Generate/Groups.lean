import Mathlib.Data.List.Nodup
import TypedClient.Proofs.Generate.Scope
import TypedClient.Proofs.Ordered.Gather

/-!
The paths of a document and the controllers that they go to. Every path is filed under one group, and
the controller of a group has the operations of its paths, in their order and no others.
-/

set_option autoImplicit false

namespace TypedClient

open Api (Verb Operation PathItem Document)

/-- The order in which the operations of a path come. -/
def verbOrder : List Verb := [.get, .put, .post, .delete, .options, .head, .patch]

/-- The group that a path is filed under, by the first tag of its first operation. -/
inductive Filed (item : PathItem) : String → Prop where
  | tagged {o : Operation} {tag : String} : verbOrder.findSome? item.operation? = some o →
    o.tags.head? = some tag → Text.pascalCase tag ≠ "" → Filed item (Text.pascalCase tag)
  | wordless {o : Operation} {tag : String} : verbOrder.findSome? item.operation? = some o →
    o.tags.head? = some tag → Text.pascalCase tag = "" → Filed item "Unknown"
  | untagged {o : Operation} : verbOrder.findSome? item.operation? = some o → o.tags = [] →
    Filed item "Unknown"
  | idle : verbOrder.findSome? item.operation? = none → Filed item "Unknown"

theorem head?_operations (item : PathItem) :
    item.operations.head?.map Prod.snd = verbOrder.findSome? item.operation? := by
  change _ = Verb.all.findSome? item.operation?
  rw [PathItem.operations, List.head?_filterMap, List.map_findSome?]
  congr 1
  funext v
  simp [Function.comp_def]

theorem filed_groupOf (item : PathItem) : Filed item (groupOf item) := by
  have hf := head?_operations item
  unfold groupOf
  cases ho : item.operations.head? with
  | none =>
    rw [ho] at hf
    exact .idle hf.symm
  | some e =>
    rw [ho] at hf
    cases ht : e.2.tags.head? with
    | none => simpa [ht, unknownGroup] using Filed.untagged hf.symm (List.head?_eq_none_iff.1 ht)
    | some tag =>
      by_cases hw : Text.pascalCase tag = ""
      · simpa [ht, hw, unknownGroup] using Filed.wordless hf.symm ht hw
      · simpa [ht, hw] using Filed.tagged hf.symm ht hw

theorem Filed.unique {item : PathItem} {g g' : String} (h : Filed item g) (h' : Filed item g') :
    g = g' := by
  cases h <;> cases h' <;> simp_all

theorem groupOf_eq_iff {item : PathItem} {group : String} :
    groupOf item = group ↔ Filed item group := by
  constructor
  · rintro rfl
    exact filed_groupOf item
  · exact (filed_groupOf item).unique

def file (gs : OrderedMap (OrderedMap PathItem)) (e : String × PathItem) :
    OrderedMap (OrderedMap PathItem) :=
  gs.insert (groupOf e.2) (((gs.get? (groupOf e.2)).getD .empty).insert e.1 e.2)

theorem groups_eq (paths : OrderedMap PathItem) : groups paths = paths.entries.foldl file .empty :=
  rfl

def inGroup (es : List (String × PathItem)) (group : String) : List (String × PathItem) :=
  es.filter fun e => groupOf e.2 = group

/-- The groups of the paths `es`: in the order in which they first come, each with its paths. -/
structure Grouped (es : List (String × PathItem)) (gs : OrderedMap (OrderedMap PathItem)) :
    Prop where
  order : gs.keys = distinct (es.map fun e => groupOf e.2)
  members : ∀ g, ((gs.get? g).getD .empty).entries = inGroup es g

theorem grouped_groups (paths : OrderedMap PathItem) : Grouped paths.entries (groups paths) := by
  have h : Gathered (fun e => groupOf e.2) (fun g e => g.insert e.1 e.2) .empty paths.entries
      (groups paths) := by
    rw [groups_eq]
    exact gathered_gather _ _ _ paths.entries
  refine ⟨h.keys, fun g => ?_⟩
  rw [h.value g]
  exact OrderedMap.ofList_entries (paths.distinct.sublist (List.filter_sublist.map Prod.fst))

theorem entries_of_group {paths : OrderedMap PathItem} {e : String × OrderedMap PathItem}
    (he : e ∈ (groups paths).entries) : e.2.entries = inGroup paths.entries e.1 := by
  have hm := (grouped_groups paths).members e.1
  rwa [OrderedMap.get?, Entries.get?_of_mem (groups paths).distinct he] at hm

theorem flatMap_groups {β : Type} (paths : OrderedMap PathItem)
    (f : List (String × PathItem) → List β) :
    ((groups paths).entries.flatMap fun e => f e.2.entries) =
      (groups paths).keys.flatMap fun g => f (inGroup paths.entries g) := by
  rw [OrderedMap.keys, Entries.keys, List.flatMap_map, List.flatMap_def, List.flatMap_def]
  congr 1
  exact List.map_congr_left fun e he => congrArg f (entries_of_group he)

section Partition

variable {α κ : Type} [DecidableEq κ]

theorem pairwise_filter_disjoint (key : α → κ) (xs : List α) {ks : List κ} (h : ks.Nodup) :
    ks.Pairwise (Function.onFun List.Disjoint fun k => xs.filter fun x => key x = k) := by
  refine h.imp fun hne x hx hx' => hne ?_
  simp only [List.mem_filter, decide_eq_true_eq] at hx hx'
  exact hx.2.symm.trans hx'.2

/-- Items put together by their keys are the items that there were. -/
theorem flatMap_filter_perm (key : α → κ) {xs : List α} (h : xs.Nodup) :
    ((distinct (xs.map key)).flatMap fun k => xs.filter fun x => key x = k).Perm xs := by
  rw [List.perm_ext_iff_of_nodup _ h]
  · intro x
    simp only [List.mem_flatMap, mem_distinct, List.mem_map, List.mem_filter, decide_eq_true_eq]
    constructor
    · rintro ⟨_, _, hx, _⟩
      exact hx
    · intro hx
      exact ⟨key x, ⟨x, hx, rfl⟩, hx, rfl⟩
  · exact List.nodup_flatMap.2
      ⟨fun _ _ => h.filter _, pairwise_filter_disjoint key xs (nodup_distinct _)⟩

end Partition

/-- Every operation with its path and its verb, in the order of the paths and of the verbs. -/
def calls (es : List (String × PathItem)) : List (String × Verb × Operation) :=
  es.flatMap fun e => verbOrder.filterMap fun v => (e.2.operation? v).map fun o => (e.1, v, o)

def callSite (c : String × Verb × Operation) : String × Verb := (c.1, c.2.1)

theorem calls_flatMap {α : Type} (f : α → List (String × PathItem)) (xs : List α) :
    calls (xs.flatMap f) = xs.flatMap fun x => calls (f x) := List.flatMap_assoc

/-- The groups together have the calls of the document. -/
theorem calls_groups_perm (paths : OrderedMap PathItem) :
    ((groups paths).entries.flatMap fun e => calls e.2.entries).Perm (calls paths.entries) := by
  have hn : paths.entries.Nodup := List.Nodup.of_map Prod.fst paths.distinct
  have hp : ((distinct (paths.entries.map fun e => groupOf e.2)).flatMap
      (inGroup paths.entries)).Perm paths.entries := flatMap_filter_perm _ hn
  rw [flatMap_groups, ← calls_flatMap, (grouped_groups paths).order]
  exact hp.flatMap_right _

theorem map_callSite (f : Verb → Option Operation) (path : String) (vs : List Verb) :
    (vs.filterMap fun v => (f v).map fun o => (path, v, o)).map callSite =
      (vs.filter fun v => (f v).isSome).map (Prod.mk path) := by
  induction vs with
  | nil => rfl
  | cons v vs ih => cases h : f v <;> simp [h, ih, callSite]

theorem callSites_nodup (paths : OrderedMap PathItem) :
    ((calls paths.entries).map callSite).Nodup := by
  rw [calls, List.map_flatMap, List.nodup_flatMap]
  constructor
  · intro e _
    rw [map_callSite]
    have hv : verbOrder.Nodup := by decide
    exact (hv.filter _).map fun _ _ h => (Prod.mk.inj h).2
  · -- Calls at two paths differ already in the path.
    refine (List.pairwise_map.1 paths.distinct).imp fun hne s hs hs' => hne ?_
    simp only [map_callSite] at hs hs'
    obtain ⟨v, _, rfl⟩ := List.mem_map.1 hs
    obtain ⟨w, _, hw⟩ := List.mem_map.1 hs'
    exact (congrArg Prod.fst hw).symm

theorem operations_calls (path : String) (item : PathItem) :
    item.operations.map (Prod.mk path) =
      verbOrder.filterMap fun v => (item.operation? v).map fun o => (path, v, o) := by
  change _ = Verb.all.filterMap _
  rw [PathItem.operations, List.map_filterMap]
  simp only [Option.map_map, Function.comp_def]

namespace Code

theorem controllerMethods_eq (name : String) (paths : OrderedMap PathItem) (noDocs : Bool) :
    controllerMethods name paths noDocs =
      combineAll ((calls paths.entries).map fun c => method c.1 c.2.1 c.2.2 name noDocs) := by
  have h : (paths.entries.map fun e => methods e.1 e.2 name noDocs) =
      paths.entries.map fun e => combineAll
        ((e.2.operations.map (Prod.mk e.1)).map fun c => method c.1 c.2.1 c.2.2 name noDocs) := by
    simp only [methods, List.map_map]
    rfl
  change combineAll (paths.entries.map fun e => methods e.1 e.2 name noDocs) = _
  rw [h, combineAll_flatMap, calls, List.map_flatMap]
  simp only [operations_calls]

def controllerText (head name signatures bodies : String) : String :=
  head ++ "export type " ++ name ++ " = \x7b\n" ++ signatures ++ "\x7d;\n\n" ++
    "export const " ++ Text.camelCase name ++ " = asks((e: \x7b apiClient: TAPIClient \x7d): " ++
    name ++ " => (" ++ "\x7b\n" ++ bodies ++ "\x7d));"

theorem controllerModule_text (group : String) (paths : OrderedMap PathItem) (noDocs : Bool) :
    controllerModule group paths noDocs =
      controllerText (moduleHead (groupImports group paths noDocs)) (controllerName group)
        (controllerMethods (controllerName group) paths noDocs).type
        (controllerMethods (controllerName group) paths noDocs).codec := by
  unfold controllerModule controllerText
  simp only [String.append_assoc]
  rfl

end Code

def controllerPath (group : String) : String := "controllers/" ++ group ++ "Controller.ts"

theorem controllerFile_path (noDocs : Bool) (group : String) (paths : OrderedMap PathItem) :
    (controllerFile noDocs group paths).path = controllerPath group := by
  have hc : "Controller.ts" = "Controller" ++ ".ts" := by decide
  change "controllers/" ++ (group ++ "Controller") ++ ".ts" = _
  rw [controllerPath, hc]
  simp only [String.append_assoc]

theorem controllerPath_inj {g g' : String} : controllerPath g = controllerPath g' ↔ g = g' := by
  rw [controllerPath, controllerPath, String.append_left_inj, String.append_right_inj]

def GeneratedFile.isController (f : GeneratedFile) : Bool :=
  "controllers/".toList.isPrefixOf f.path.toList

theorem isController_controllerPath {f : GeneratedFile} {group : String}
    (h : f.path = controllerPath group) : f.isController = true := by
  rw [GeneratedFile.isController, h, List.isPrefixOf_iff_prefix, controllerPath,
    String.append_assoc, String.toList_append]
  exact List.prefix_append _ _

theorem isController_definitionFile (name : String) (s : Api.Schema) :
    (definitionFile name s).isController = false := by
  have hd : "definitions/".toList = 'd' :: "efinitions/".toList := by decide
  change "controllers/".toList.isPrefixOf ("definitions/" ++ name ++ ".ts").toList = false
  rw [String.append_assoc, String.toList_append, hd]
  rfl

/-- The files among the controllers: one for each group, in the order of the groups. -/
theorem controllers_eq {d : Document} {noDocs : Bool} {files : List GeneratedFile}
    (h : generate d noDocs = .ok files) :
    files.filter GeneratedFile.isController =
      (groups d.paths).entries.map fun e => controllerFile noDocs e.1 e.2 := by
  have hd : (d.schemas.map fun e => definitionFile e.1 e.2).filter GeneratedFile.isController = [] := by
    rw [List.filter_eq_nil_iff]
    intro f hf
    obtain ⟨e, _, rfl⟩ := List.mem_map.1 hf
    simp [isController_definitionFile]
  have hc : ((groups d.paths).entries.map fun e => controllerFile noDocs e.1 e.2).filter
      GeneratedFile.isController =
        (groups d.paths).entries.map fun e => controllerFile noDocs e.1 e.2 := by
    rw [List.filter_eq_self]
    intro f hf
    obtain ⟨e, _, rfl⟩ := List.mem_map.1 hf
    exact isController_controllerPath (controllerFile_path noDocs e.1 e.2)
  have hk : clientFile.isController = false := by decide
  rw [generate_eq h, List.filter_append, List.filter_cons, hk, hd, hc]
  rfl

theorem Entries.filter_key {α : Type} {es : List (String × α)} (h : (Entries.keys es).Nodup)
    {e : String × α} (he : e ∈ es) : es.filter (fun f => f.1 = e.1) = [e] := by
  induction es with
  | nil => exact absurd he List.not_mem_nil
  | cons f es ih =>
    obtain ⟨hf, hn⟩ := List.nodup_cons.1 h
    rcases List.mem_cons.1 he with rfl | he
    · rw [List.filter_cons_of_pos (by simp), List.filter_eq_nil_iff.2]
      intro f hm
      have hne : f.1 ≠ e.1 := fun hk => hf (hk ▸ List.mem_map_of_mem hm)
      simp [hne]
    · have hne : f.1 ≠ e.1 := fun hk => hf (hk ▸ List.mem_map_of_mem he)
      rw [List.filter_cons_of_neg (by simp [hne]), ih hn he]

theorem filter_controllerPath {d : Document} {noDocs : Bool} {files : List GeneratedFile}
    (h : generate d noDocs = .ok files) {e : String × OrderedMap PathItem}
    (he : e ∈ (groups d.paths).entries) :
    files.filter (fun f => f.path = controllerPath e.1) = [controllerFile noDocs e.1 e.2] := by
  have hf : files.filter (fun f => f.path = controllerPath e.1) =
      (files.filter GeneratedFile.isController).filter fun f => f.path = controllerPath e.1 := by
    rw [List.filter_filter]
    apply List.filter_congr
    intro f _
    by_cases hp : f.path = controllerPath e.1
    · simp [hp, isController_controllerPath hp]
    · simp [hp]
  rw [hf, controllers_eq h, List.filter_map]
  simp only [Function.comp_def, controllerFile_path, controllerPath_inj]
  rw [Entries.filter_key (groups d.paths).distinct he]
  rfl

/-- Groups come in the order of their first paths, and each has one controller, with the methods of
the operations of its paths in order; of all operations of the document every one is in one group. -/
theorem generate_controllers {d : Document} {noDocs : Bool} {files : List GeneratedFile}
    (h : generate d noDocs = .ok files) :
    (∀ (item : PathItem) (group : String), groupOf item = group ↔ Filed item group) ∧
    (groups d.paths).keys = distinct (d.paths.entries.map fun e => groupOf e.2) ∧
    (files.filter GeneratedFile.isController).map GeneratedFile.path =
      (groups d.paths).keys.map controllerPath ∧
    (∀ e ∈ (groups d.paths).entries,
      e.2.entries = d.paths.entries.filter (fun p => groupOf p.2 = e.1) ∧
      ∃ f, files.filter (fun f => f.path = controllerPath e.1) = [f] ∧
        f.content = Code.controllerText (Code.moduleHead (Code.groupImports e.1 e.2 noDocs))
          (Code.controllerName e.1)
          (String.join ((calls e.2.entries).map fun c =>
            (Code.method c.1 c.2.1 c.2.2 (Code.controllerName e.1) noDocs).type))
          (String.join ((calls e.2.entries).map fun c =>
            (Code.method c.1 c.2.1 c.2.2 (Code.controllerName e.1) noDocs).codec))) ∧
    ((groups d.paths).entries.flatMap fun e => calls e.2.entries).Perm (calls d.paths.entries) ∧
    ((calls d.paths.entries).map callSite).Nodup := by
  refine ⟨fun _ _ => groupOf_eq_iff, (grouped_groups d.paths).order, ?_, ?_,
    calls_groups_perm d.paths, callSites_nodup d.paths⟩
  · rw [controllers_eq h, OrderedMap.keys, Entries.keys, List.map_map, List.map_map]
    exact List.map_congr_left fun e _ => controllerFile_path noDocs e.1 e.2
  · intro e he
    refine ⟨entries_of_group he, controllerFile noDocs e.1 e.2, filter_controllerPath h he, ?_⟩
    have ht := Code.controllerModule_text e.1 e.2 noDocs
    rw [Code.controllerMethods_eq, Code.Fragment.combineAll_type, Code.Fragment.combineAll_codec,
      List.map_map, List.map_map] at ht
    exact ht

def interleavedDocument : Document :=
  let tagged (tags : List String) : Operation := ⟨none, none, none, tags, [], .empty, none⟩
  { version := "2.0"
    info := ⟨"Pets", none, "1"⟩
    host := none
    basePath := none
    definitions := none
    paths :=
      ⟨[("/pets", ⟨some (tagged ["pets"]), none, some (tagged ["admin"]), none, none, none, none⟩),
        ("/health", ⟨none, none, none, none, none, none, none⟩),
        ("/pets/{id}", ⟨none, none, none, some (tagged ["Pets"]), none, none, none⟩)], by decide⟩
    tags := [] }

theorem interleavedDocument_controllers :
    ∃ files, generate interleavedDocument true = .ok files ∧
      (files.filter GeneratedFile.isController).map GeneratedFile.path =
        ["controllers/PetsController.ts", "controllers/UnknownController.ts"] := by
  obtain ⟨files, h⟩ : ∃ files, generate interleavedDocument true = .ok files := ⟨_, rfl⟩
  exact ⟨files, h, (generate_controllers h).2.2.1.trans (by decide +kernel)⟩

end TypedClient
