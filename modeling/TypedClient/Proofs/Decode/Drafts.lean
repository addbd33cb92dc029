import TypedClient.Proofs.Decode.Document
import TypedClient.Proofs.Decode.Slots

set_option autoImplicit false

namespace TypedClient.Decode

open Api (Verb Operation)
open Source (Node)
open Visit

section

variable {δ β : Type}

theorem steady_set {name : String} {slot : Option β} {read : Visit β} {set : Option β → δ}
    (h : read.Steady) : Steady (once name slot read >>= fun o => pure (set o)) :=
  (steady_once h).bind fun _ => steady_pure _

theorem steady_pass (d : δ) (x : Node) : Steady (do skip x; return d) :=
  (steady_lift _).bind fun _ => steady_pure _

end

def responseSlots (p : Place) : List (Slot Node ResponseDraft) :=
  [.ofRead "description" readText ResponseDraft.description
      fun d v => { d with description := some v },
    .ofRead "schema" (readOption (readSchema p)) ResponseDraft.schema
      fun d v => { d with schema := some v }]

theorem response_steady (p : Place) (d : ResponseDraft) (k : String) (x : Node) :
    (response.step p d k x).Steady := by
  simp only [response]
  split
  · exact steady_set (readText_steady x)
  · exact steady_set (readOption_steady (readSchema_steady p) x)
  · exact steady_pass d x

theorem response_slotted (p : Place) : response.Slotted p (responseSlots p) where
  steady := response_steady
  finish d d' h := by
    simp [responseSlots, Slot.ofRead] at h
    simp [response, h]
  fills := {
    field := by
      simp only [responseSlots, List.forall_mem_cons]
      exact ⟨fun _ _ _ => set_once_yields, fun _ _ _ => set_once_yields, List.forall_mem_nil _⟩
    other := by
      intro d k x d' hk
      simp only [response]
      split
      case h_3 => exact skip_yields
      all_goals simp [responseSlots, Slot.ofRead] at hk
    nodup := by simp [responseSlots, Slot.ofRead]
    get_set := by simp [responseSlots, Slot.ofRead]
    apart := by simp [responseSlots, Slot.ofRead, Slot.Apart] }

def operationSlots (p : Place) : List (Slot Node OperationDraft) :=
  [.ofRead "operationId" (readOption readText) OperationDraft.id fun d v => { d with id := some v },
    .ofRead "summary" (readOption readText) OperationDraft.summary
      fun d v => { d with summary := some v },
    .ofRead "description" (readOption readText) OperationDraft.description
      fun d v => { d with description := some v },
    .ofRead "tags" (readList (fun _ => readText) p) OperationDraft.tags
      fun d v => { d with tags := some v },
    .ofRead "parameters" (readList readParameter p) OperationDraft.parameters
      fun d v => { d with parameters := some v },
    .ofRead "responses" (readMap response.read p) OperationDraft.responses
      fun d v => { d with responses := some v },
    .ofRead "deprecated" (readOption readBool) OperationDraft.deprecated
      fun d v => { d with deprecated := some v }]

theorem operation_steady (p : Place) (d : OperationDraft) (k : String) (x : Node) :
    (operation.step p d k x).Steady := by
  simp only [operation]
  split
  · exact steady_set (readOption_steady readText_steady x)
  · exact steady_set (readOption_steady readText_steady x)
  · exact steady_set (readOption_steady readText_steady x)
  · exact steady_set (readList_steady (fun _ => readText_steady) p x)
  · exact steady_set (readList_steady readParameter_steady p x)
  · exact steady_set (readMap_steady (Record.read_steady response_steady) p x)
  · exact steady_set (readOption_steady readBool_steady x)
  · exact steady_pass d x

theorem operation_slotted (p : Place) : operation.Slotted p (operationSlots p) where
  steady := operation_steady
  finish d d' h := by
    simp [operationSlots, Slot.ofRead] at h
    simp [operation, h]
  fills := {
    field := by
      simp only [operationSlots, List.forall_mem_cons]
      exact ⟨fun _ _ _ => set_once_yields, fun _ _ _ => set_once_yields,
        fun _ _ _ => set_once_yields, fun _ _ _ => set_once_yields, fun _ _ _ => set_once_yields,
        fun _ _ _ => set_once_yields, fun _ _ _ => set_once_yields, List.forall_mem_nil _⟩
    other := by
      intro d k x d' hk
      simp only [operation]
      split
      case h_8 => exact skip_yields
      all_goals simp [operationSlots, Slot.ofRead] at hk
    nodup := by simp [operationSlots, Slot.ofRead]
    get_set := by simp [operationSlots, Slot.ofRead]
    apart := by simp [operationSlots, Slot.ofRead, Slot.Apart] }

def verbSlot (p : Place) (v : Verb) : Slot Node PathItemDraft :=
  .ofRead v.key (readOption (operation.read p)) (fun d => d.lookup v) fun d o => (v, o) :: d

def pathItemSlots (p : Place) : List (Slot Node PathItemDraft) := Verb.all.map (verbSlot p)

theorem pathItem_steady (p : Place) (d : PathItemDraft) (k : String) (x : Node) :
    (pathItem.step p d k x).Steady := by
  simp only [pathItem]
  split
  · split
    · exact steady_lift _
    · exact (readOption_steady (Record.read_steady operation_steady p) x).bind fun _ =>
        steady_pure _
  · exact steady_pass d x

theorem pathItem_field (p : Place) (v : Verb) (d : PathItemDraft) (x : Node) (d' : PathItemDraft) :
    (pathItem.step p d v.key x).Yields d' ↔ d.lookup v = none ∧
      ∃ o, (readOption (operation.read p) x).Yields o ∧ (v, o) :: d = d' := by
  simp only [pathItem, Verb.ofKey?_key]
  cases hl : d.lookup v with
  | some o =>
    constructor
    · intro h
      cases h
    · rintro ⟨h, _⟩
      cases h
  | none => exact bind_pure_yields.trans ⟨fun h => ⟨rfl, h⟩, And.right⟩

theorem ofKey?_none {k : String} (h : k ∉ Verb.all.map Verb.key) : Verb.ofKey? k = none := by
  refine List.find?_eq_none.2 fun v hv he => h ?_
  exact List.mem_map.2 ⟨v, hv, eq_of_beq he⟩

theorem pathItem_names (p : Place) : Slot.names (pathItemSlots p) = Verb.all.map Verb.key := rfl

theorem pathItem_slotted (p : Place) : pathItem.Slotted p (pathItemSlots p) where
  steady := pathItem_steady
  finish d d' h := by
    have hl : ∀ v, d.lookup v = d'.lookup v := fun v =>
      h (verbSlot p v) (List.mem_map_of_mem (mem_verbs v))
    simp only [pathItem, hl]
  fills := {
    field := List.forall_mem_map.2 fun v _ => pathItem_field p v
    other := by
      intro d k x d' hk
      simp only [pathItem, ofKey?_none (pathItem_names p ▸ hk)]
      exact skip_yields
    nodup := (pathItem_names p).symm ▸ (by decide)
    get_set := List.forall_mem_map.2 fun v _ d o => List.lookup_cons_self
    apart := by
      refine List.pairwise_map.2 (List.Pairwise.imp ?_ (by decide : Verb.all.Nodup))
      intro v w hvw
      have hl : ∀ (v w : Verb) (d : PathItemDraft) (o : Option Operation), v ≠ w →
          List.lookup v ((w, o) :: d) = d.lookup v := by
        intro v w d o h
        rw [List.lookup_cons, beq_false_of_ne h]
      exact ⟨fun d o => hl w v d o (Ne.symm hvw), fun d o => hl v w d o hvw⟩ }

def infoSlots : List (Slot Node InfoDraft) :=
  [.ofRead "title" readText InfoDraft.title fun d v => { d with title := some v },
    .ofRead "description" (readOption readText) InfoDraft.description
      fun d v => { d with description := some v },
    .ofRead "version" readText InfoDraft.version fun d v => { d with version := some v }]

theorem info_steady (p : Place) (d : InfoDraft) (k : String) (x : Node) :
    (info.step p d k x).Steady := by
  simp only [info]
  split
  · exact steady_set (readText_steady x)
  · exact steady_set (readOption_steady readText_steady x)
  · exact steady_set (readText_steady x)
  · exact steady_pass d x

theorem info_slotted (p : Place) : info.Slotted p infoSlots where
  steady := info_steady
  finish d d' h := by
    simp [infoSlots, Slot.ofRead] at h
    simp [info, h]
  fills := {
    field := by
      simp only [infoSlots, List.forall_mem_cons]
      exact ⟨fun _ _ _ => set_once_yields, fun _ _ _ => set_once_yields,
        fun _ _ _ => set_once_yields, List.forall_mem_nil _⟩
    other := by
      intro d k x d' hk
      simp only [info]
      split
      case h_4 => exact skip_yields
      all_goals simp [infoSlots, Slot.ofRead] at hk
    nodup := by simp [infoSlots, Slot.ofRead]
    get_set := by simp [infoSlots, Slot.ofRead]
    apart := by simp [infoSlots, Slot.ofRead, Slot.Apart] }

def tagSlots : List (Slot Node TagDraft) :=
  [.ofRead "name" readText TagDraft.name fun d v => { d with name := some v },
    .ofRead "description" (readOption readText) TagDraft.description
      fun d v => { d with description := some v }]

theorem tag_steady (p : Place) (d : TagDraft) (k : String) (x : Node) :
    (tag.step p d k x).Steady := by
  simp only [tag]
  split
  · exact steady_set (readText_steady x)
  · exact steady_set (readOption_steady readText_steady x)
  · exact steady_pass d x

theorem tag_slotted (p : Place) : tag.Slotted p tagSlots where
  steady := tag_steady
  finish d d' h := by
    simp [tagSlots, Slot.ofRead] at h
    simp [tag, h]
  fills := {
    field := by
      simp only [tagSlots, List.forall_mem_cons]
      exact ⟨fun _ _ _ => set_once_yields, fun _ _ _ => set_once_yields, List.forall_mem_nil _⟩
    other := by
      intro d k x d' hk
      simp only [tag]
      split
      case h_3 => exact skip_yields
      all_goals simp [tagSlots, Slot.ofRead] at hk
    nodup := by simp [tagSlots, Slot.ofRead]
    get_set := by simp [tagSlots, Slot.ofRead]
    apart := by simp [tagSlots, Slot.ofRead, Slot.Apart] }

def documentSlots (p : Place) : List (Slot Node DocumentDraft) :=
  [.ofRead "swagger" readText DocumentDraft.version fun d v => { d with version := some v },
    .ofRead "info" (info.read p) DocumentDraft.info fun d v => { d with info := some v },
    .ofRead "host" (readOption readText) DocumentDraft.host fun d v => { d with host := some v },
    .ofRead "basePath" (readOption readText) DocumentDraft.basePath
      fun d v => { d with basePath := some v },
    .ofRead "definitions" (readOption (readMap readSchema p)) DocumentDraft.definitions
      fun d v => { d with definitions := some v },
    .ofRead "paths" (readMap pathItem.read p) DocumentDraft.paths
      fun d v => { d with paths := some v },
    .ofRead "tags" (readList tag.read p) DocumentDraft.tags fun d v => { d with tags := some v }]

theorem document_steady (p : Place) (d : DocumentDraft) (k : String) (x : Node) :
    (document.step p d k x).Steady := by
  simp only [document]
  split
  · exact steady_set (readText_steady x)
  · exact steady_set (Record.read_steady info_steady p x)
  · exact steady_set (readOption_steady readText_steady x)
  · exact steady_set (readOption_steady readText_steady x)
  · exact steady_set (readOption_steady (readMap_steady readSchema_steady p) x)
  · exact steady_set (readMap_steady (Record.read_steady pathItem_steady) p x)
  · exact steady_set (readList_steady (Record.read_steady tag_steady) p x)
  · exact steady_pass d x

theorem document_slotted (p : Place) : document.Slotted p (documentSlots p) where
  steady := document_steady
  finish d d' h := by
    simp [documentSlots, Slot.ofRead] at h
    simp [document, h]
  fills := {
    field := by
      simp only [documentSlots, List.forall_mem_cons]
      exact ⟨fun _ _ _ => set_once_yields, fun _ _ _ => set_once_yields,
        fun _ _ _ => set_once_yields, fun _ _ _ => set_once_yields, fun _ _ _ => set_once_yields,
        fun _ _ _ => set_once_yields, fun _ _ _ => set_once_yields, List.forall_mem_nil _⟩
    other := by
      intro d k x d' hk
      simp only [document]
      split
      case h_8 => exact skip_yields
      all_goals simp [documentSlots, Slot.ofRead] at hk
    nodup := by simp [documentSlots, Slot.ofRead]
    get_set := by simp [documentSlots, Slot.ofRead]
    apart := by simp [documentSlots, Slot.ofRead, Slot.Apart] }

end TypedClient.Decode
