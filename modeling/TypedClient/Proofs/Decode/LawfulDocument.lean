import TypedClient.Decode.Text
import TypedClient.Proofs.Decode.Lawful

set_option autoImplicit false

namespace TypedClient.Decode

open Api (Schema Verb Response Operation PathItem Document Parameter)
open Source (Node)
open Result (gives_ok gives_any gives_need)

def ResponseDraft.Lawful (d : ResponseDraft) : Prop :=
  ∀ v, d.schema = some v → ∀ x, v = some x → x.Holds List.Nodup Json.Sorted

structure OperationDraft.Lawful (d : OperationDraft) : Prop where
  parameters : ∀ ps, d.parameters = some ps → ∀ x ∈ ps, x.Holds List.Nodup Json.Sorted
  responses : ∀ m, d.responses = some m → ∀ e ∈ m.entries, e.2.Holds List.Nodup Json.Sorted

def PathItemDraft.Lawful (d : PathItemDraft) : Prop :=
  ∀ e ∈ d, ∀ x, e.2 = some x → x.Holds List.Nodup Json.Sorted

structure DocumentDraft.Lawful (d : DocumentDraft) : Prop where
  definitions : ∀ v, d.definitions = some v → ∀ m, v = some m →
    ∀ e ∈ m.entries, e.2.Holds List.Nodup Json.Sorted
  paths : ∀ m, d.paths = some m → ∀ e ∈ m.entries, e.2.Holds List.Nodup Json.Sorted

section Default

variable {α : Type} {P : α → Prop}

theorem getD_none_holds {v : Option (Option α)} (h : ∀ o, v = some o → ∀ x, o = some x → P x) :
    ∀ x, v.getD none = some x → P x := by
  cases v with
  | none => exact fun _ h => nomatch h
  | some o => exact h o rfl

theorem getD_nil_holds {v : Option (List α)} (h : ∀ xs, v = some xs → ∀ x ∈ xs, P x) :
    ∀ x ∈ v.getD [], P x := by
  cases v with
  | none => exact List.forall_mem_nil P
  | some xs => exact h xs rfl

theorem getD_empty_holds {v : Option (OrderedMap α)}
    (h : ∀ m, v = some m → ∀ e ∈ m.entries, P e.2) : ∀ e ∈ (v.getD .empty).entries, P e.2 := by
  cases v with
  | none => exact List.forall_mem_nil _
  | some m => exact h m rfl

end Default

theorem response_lawful (p : Place) (n : Node) :
    (response.read p n).Gives fun x => x.Holds List.Nodup Json.Sorted := by
  have hs : ResponseDraft.Lawful response.start := fun _ h => nomatch h
  refine Record.read_gives hs ?_ ?_ p n
  · intro p d f x hd
    simp only [response]
    split
    · exact Visit.gives_bind fun _ => Visit.gives_pure hd
    · have hs := readOption_gives (readSchema_lawful p) x
      exact (Visit.gives_once hs).bind fun _ h => Visit.gives_pure h
    · exact Visit.gives_bind fun _ => Visit.gives_pure hd
  · exact fun d hd => gives_ok (getD_none_holds hd)

theorem operation_lawful (p : Place) (n : Node) :
    (operation.read p n).Gives fun x => x.Holds List.Nodup Json.Sorted := by
  have hs : OperationDraft.Lawful operation.start :=
    ⟨fun _ h => (nomatch h), fun _ h => (nomatch h)⟩
  refine Record.read_gives hs ?_ ?_ p n
  · intro p d f x hd
    simp only [operation]
    split
    · exact Visit.gives_bind fun _ => Visit.gives_pure ⟨hd.1, hd.2⟩
    · exact Visit.gives_bind fun _ => Visit.gives_pure ⟨hd.1, hd.2⟩
    · exact Visit.gives_bind fun _ => Visit.gives_pure ⟨hd.1, hd.2⟩
    · exact Visit.gives_bind fun _ => Visit.gives_pure ⟨hd.1, hd.2⟩
    · have hs := readList_gives readParameter_lawful p x
      exact (Visit.gives_once hs).bind fun _ h => Visit.gives_pure ⟨h, hd.2⟩
    · have hs := readMap_gives response_lawful p x
      exact (Visit.gives_once hs).bind fun _ h => Visit.gives_pure ⟨hd.1, h⟩
    · exact Visit.gives_bind fun _ => Visit.gives_pure ⟨hd.1, hd.2⟩
    · exact Visit.gives_bind fun _ => Visit.gives_pure hd
  · exact fun d hd => gives_ok ⟨getD_nil_holds hd.parameters, getD_empty_holds hd.responses⟩

theorem pathItem_lawful (p : Place) (n : Node) :
    (pathItem.read p n).Gives fun x => x.Holds List.Nodup Json.Sorted := by
  have hs : PathItemDraft.Lawful pathItem.start := fun _ h => nomatch h
  refine Record.read_gives hs ?_ ?_ p n
  · intro p d f x hd
    simp only [pathItem]
    split
    · split
      · exact Visit.gives_lift (Result.gives_error _)
      · have ho := readOption_gives (operation_lawful p) x
        exact ho.bind fun _ h => Visit.gives_pure (List.forall_mem_cons.2 ⟨h, hd⟩)
    · exact Visit.gives_bind fun _ => Visit.gives_pure hd
  · refine fun d hd => gives_ok fun v o ho => ?_
    rw [Api.PathItem.operation?_ofVerbs] at ho
    cases hl : d.lookup v with
    | none => rw [hl] at ho; cases ho
    | some w =>
      rw [hl] at ho
      exact hd (v, w) (mem_of_lookup hl) o ho

theorem document_lawful (p : Place) (n : Node) : (document.read p n).Gives Document.Lawful := by
  have hs : DocumentDraft.Lawful document.start :=
    ⟨fun _ h => (nomatch h), fun _ h => (nomatch h)⟩
  refine Record.read_gives hs ?_ ?_ p n
  · intro p d f x hd
    simp only [document]
    split
    · exact Visit.gives_bind fun _ => Visit.gives_pure ⟨hd.1, hd.2⟩
    · exact Visit.gives_bind fun _ => Visit.gives_pure ⟨hd.1, hd.2⟩
    · exact Visit.gives_bind fun _ => Visit.gives_pure ⟨hd.1, hd.2⟩
    · exact Visit.gives_bind fun _ => Visit.gives_pure ⟨hd.1, hd.2⟩
    · have hs := readOption_gives (readMap_gives readSchema_lawful p) x
      exact (Visit.gives_once hs).bind fun _ h => Visit.gives_pure ⟨h, hd.2⟩
    · have hs := readMap_gives pathItem_lawful p x
      exact (Visit.gives_once hs).bind fun _ h => Visit.gives_pure ⟨hd.1, h⟩
    · exact Visit.gives_bind fun _ => Visit.gives_pure ⟨hd.1, hd.2⟩
    · exact Visit.gives_bind fun _ => Visit.gives_pure hd
  · intro d hd
    refine (gives_any _).bind fun version _ => (gives_any _).bind fun info _ => ?_
    exact gives_ok ⟨getD_none_holds hd.definitions, getD_empty_holds hd.paths⟩

theorem run_gives {α : Type} {P : α → Prop} {m : Visit α} (h : m.Gives P) (n : Nat) :
    Result.Gives (m.run' n) P :=
  Result.Gives.map (h n) fun _ hr => hr

theorem eq_ok_of_mapError {ε ε' α : Type} {r : Except ε α} {f : ε → ε'} {v : α}
    (h : r.mapError f = .ok v) : r = .ok v := by
  cases r with
  | error e => cases h
  | ok w => exact congrArg Except.ok (Except.ok.inj h)

theorem readJsonText_gives {α : Type} {P : α → Prop} {read : Place → Node → Visit α}
    (h : ∀ p n, (read p n).Gives P) (s : String) : (readJsonText read s).Gives P := by
  rw [readJsonText]
  obtain ⟨n, more⟩ := Source.JsonText.document s
  refine (run_gives (h jsonPlace n) 0).bind fun v hv => ?_
  cases more with
  | true => exact Result.gives_error _
  | false => exact gives_ok hv

theorem readYamlText?_holds {α : Type} {P : α → Prop} {read : Place → Node → Visit α}
    (h : ∀ p n, (read p n).Gives P) {s : String} {v : α} (hv : readYamlText? read s = some v) :
    P v := by
  obtain ⟨⟨n, aliases⟩, _, hr⟩ := Option.bind_eq_some_iff.1 hv
  change ((read yamlPlace n).run' aliases).toOption = some v at hr
  cases hm : (read yamlPlace n).run' aliases with
  | error e => rw [hm] at hr; cases hr
  | ok w =>
    rw [hm] at hr
    cases hr
    exact run_gives (h yamlPlace n) aliases v hm

theorem readText?_holds {α : Type} {P : α → Prop} {read : Place → Node → Visit α}
    (h : ∀ p n, (read p n).Gives P) {f : Format} {s : String} {v : α}
    (hv : readText? f read s = .ok v) : P v := by
  cases f with
  | json => exact readJsonText_gives h s v (eq_ok_of_mapError hv)
  | yaml =>
    rw [readText?] at hv
    split at hv
    · rename_i w hw
      cases hv
      exact readYamlText?_holds h hw
    · cases hv

/-- What a text is read as is lawful and of the version that is supported. -/
theorem readDocument_lawful {f : Format} {s : String} {x : Document}
    (h : readDocument f s = .ok x) : x.Lawful ∧ x.version = Document.supportedVersion := by
  rw [readDocument] at h
  cases hr : readText? f document.read s with
  | error e => rw [hr] at h; cases h
  | ok d =>
    rw [hr] at h
    change (if d.version = Document.supportedVersion then Except.ok d else _) = _ at h
    split at h
    · rename_i hv
      cases h
      exact ⟨readText?_holds document_lawful hr, hv⟩
    · cases h

end TypedClient.Decode
