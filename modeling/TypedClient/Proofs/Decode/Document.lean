import TypedClient.Decode.Document
import TypedClient.Proofs.Decode.Record

set_option autoImplicit false

namespace TypedClient.Decode

open Api (Schema Verb Response Operation PathItem Info Tag Document Parameter)
open Source (Node)

theorem depth_of_entry {α : Type} {name : String} {write : α → Json} {v : Option α} {n : Nat}
    (h : ∀ e ∈ Json.entry? name write v, e.2.depth ≤ n) :
    ∀ x, v = some x → (write x).depth ≤ n := by
  rintro x rfl
  exact h _ (List.mem_singleton_self _)

theorem tag_recovers (t : Tag) : Recovers tag.read t.toJson t := by
  let set (v : Option String) : TagDraft := ⟨some t.name, v.map some⟩
  refine Record.recovers fun q _ => ⟨set t.description, ?_, ?_⟩
  · rw [← List.append_nil (Json.entry? "description" Json.text t.description)]
    refine (Record.ofMembers_field rfl).trans ?_
    exact Record.ofMembers_optional set rfl fun _ _ => rfl
  · simp only [tag, need, set, Resolved.getD_map_some]
    rfl

theorem info_recovers (i : Info) : Recovers info.read i.toJson i := by
  let set (v : Option String) : InfoDraft := ⟨some i.title, v.map some, none⟩
  refine Record.recovers fun q _ => ⟨{ set i.description with version := some i.version }, ?_, ?_⟩
  · rw [List.append_assoc]
    refine (Record.ofMembers_field rfl).trans ?_
    refine (Record.ofMembers_optional set rfl fun _ _ => rfl).trans ?_
    exact Record.ofMembers_field rfl
  · simp only [info, need, set, Resolved.getD_map_some]
    rfl

theorem schema_ne_null (x : Schema) : x.toJson ≠ .null := by
  obtain ⟨es, he⟩ := Reading.toJson_record x
  rw [he]
  nofun

theorem schema_recovers {x : Schema} (h : x.Holds List.Nodup Json.Sorted) (he : x.toJson.Exact) :
    Recovers readSchema x.toJson x :=
  fun _ hd => readSchema_toJson h he hd

theorem response_recovers {x : Response}
    (h : ∀ s, x.schema = some s → Recovers readSchema s.toJson s) :
    Recovers response.read x.toJson x := by
  let set (v : Option Schema) : ResponseDraft := ⟨some x.description, v.map some⟩
  refine Record.recovers fun q hd => ⟨set x.schema, ?_, ?_⟩
  · have hs := depth_of_entry (List.forall_mem_cons.1 hd).2
    rw [← List.append_nil (Json.entry? "schema" Schema.toJson x.schema)]
    refine (Record.ofMembers_field rfl).trans ?_
    refine Record.ofMembers_optional set rfl fun s hx => ?_
    have hr := readOption_node (schema_ne_null s) (h s hx q (hs s hx))
    simp only [response, set, once_none hr]
    rfl
  · simp only [response, set, Resolved.getD_map_some]
    rfl

theorem getD_items {α : Type} (xs : List α) :
    (if xs.isEmpty then none else some xs).getD [] = xs := by
  cases xs <;> rfl

theorem getD_map {α : Type} (m : OrderedMap α) :
    (if m.isEmpty then none else some m).getD .empty = m := by
  obtain ⟨es, hn⟩ := m
  cases es <;> rfl

theorem eq_of_guarded {α : Type} {c : Bool} {x y : α} (h : (if c then none else some x) = some y) :
    y = x := by
  cases c with
  | true => cases h
  | false => exact (Option.some.inj h).symm

theorem texts_recovers (ss : List String) :
    Recovers (readList fun _ => readText) (.list (ss.map .text)) ss :=
  readList_recovers fun _ _ _ _ => rfl

theorem operation_recovers {o : Operation}
    (hp : ∀ x ∈ o.parameters, Recovers readParameter x.toJson x)
    (hr : ∀ e ∈ o.responses.entries, Recovers response.read e.2.toJson e.2) :
    Recovers operation.read o.toJson o := by
  -- The draft after each entry, as a function of what the entry holds; one that is left out leaves
  -- the draft as it was.
  let tags := if o.tags.isEmpty then none else some o.tags
  let parameters := if o.parameters.isEmpty then none else some o.parameters
  let responses := if o.responses.isEmpty then none else some o.responses
  let d₁ (v : Option String) : OperationDraft := { operation.start with id := v.map some }
  let d₂ (v : Option String) : OperationDraft := { d₁ o.id with summary := v.map some }
  let d₃ (v : Option String) : OperationDraft := { d₂ o.summary with description := v.map some }
  let d₄ (v : Option (List String)) : OperationDraft := { d₃ o.description with tags := v }
  let d₅ (v : Option (List Parameter)) : OperationDraft := { d₄ tags with parameters := v }
  let d₆ (v : Option (OrderedMap Response)) : OperationDraft :=
    { d₅ parameters with responses := v }
  let d₇ (v : Option Bool) : OperationDraft := { d₆ responses with deprecated := v.map some }
  refine Record.recovers fun q hd => ⟨d₇ o.deprecated, ?_, ?_⟩
  · rw [← List.append_nil (Json.entry? "deprecated" Json.bool o.deprecated)] at hd ⊢
    simp only [Json.items?_eq, Json.map?_eq, List.append_assoc, List.forall_mem_append] at hd ⊢
    obtain ⟨_, _, _, ht, hp', hr', _, _⟩ := hd
    refine (Record.ofMembers_optional d₁ rfl fun _ _ => rfl).trans ?_
    refine (Record.ofMembers_optional d₂ rfl fun _ _ => rfl).trans ?_
    refine (Record.ofMembers_optional d₃ rfl fun _ _ => rfl).trans ?_
    refine (Record.ofMembers_optional d₄ rfl fun ss hs => ?_).trans ?_
    · have h : once "tags" (d₄ none).tags (readList (fun _ => readText) q _) = pure (some ss) :=
        once_none (texts_recovers ss q (depth_of_entry ht ss hs))
      simp only [operation, h]
      rfl
    refine (Record.ofMembers_optional d₅ rfl fun ps hs => ?_).trans ?_
    · obtain rfl := eq_of_guarded hs
      have h : once "parameters" (d₅ none).parameters (readList readParameter q _) =
          pure (some o.parameters) :=
        once_none (readList_recovers hp q (depth_of_entry hp' _ hs))
      simp only [operation, h]
      rfl
    refine (Record.ofMembers_optional d₆ rfl fun m hs => ?_).trans ?_
    · obtain rfl := eq_of_guarded hs
      have h : once "responses" (d₆ none).responses (readMap response.read q _) =
          pure (some o.responses) :=
        once_none (readMap_recovers hr q (depth_of_entry hr' _ hs))
      simp only [operation, h]
      rfl
    exact Record.ofMembers_optional d₇ rfl fun _ _ => rfl
  · simp only [operation, d₇, d₆, d₅, d₄, d₃, d₂, d₁, Resolved.getD_map_some, tags, parameters,
      responses, getD_items, getD_map]

def verbEntry (f : Verb → Option Operation) (v : Verb) : Option (String × Json) :=
  (f v).map fun o => (v.key, o.toJson)

theorem operation_ne_null (o : Operation) : o.toJson ≠ .null := nofun

theorem pathItem_step {q : Place} {d : PathItemDraft} {v : Verb} {o : Operation}
    (hd : d.lookup v = none) (ho : operation.read q o.toJson.node = pure o) :
    pathItem.step q d v.key o.toJson.node = pure ((v, some o) :: d) := by
  have hr := readOption_node (operation_ne_null o) ho
  simp only [pathItem, Verb.ofKey?_key, hd, hr, pure_bind]
  rfl

/-- Reading the entries of the verbs one after the other, each verb is found with its operation. -/
theorem pathItem_members {q : Place} {f : Verb → Option Operation}
    (hf : ∀ v o, f v = some o → operation.read q o.toJson.node = pure o) {vs : List Verb}
    (hn : vs.Nodup) {d : PathItemDraft} (hd : ∀ v ∈ vs, d.lookup v = none) :
    ∃ d', pathItem.ofMembers q d (Json.members (vs.filterMap (verbEntry f))) = pure d' ∧
      ∀ v, (d'.lookup v).getD none = if v ∈ vs then f v else (d.lookup v).getD none := by
  -- The verbs still to come are not in the draft, so none is read twice.
  induction vs generalizing d with
  | nil => exact ⟨d, rfl, fun _ => rfl⟩
  | cons v vs ih =>
    obtain ⟨hv, hn⟩ := List.nodup_cons.1 hn
    have hd' := hd v List.mem_cons_self
    cases ho : f v with
    | none =>
      obtain ⟨d', hm, hl⟩ := ih hn fun w hw => hd w (List.mem_cons_of_mem v hw)
      refine ⟨d', by simpa [List.filterMap_cons, verbEntry, ho] using hm, fun w => ?_⟩
      rw [hl w]
      by_cases hw : w = v
      · subst hw
        simp [hv, ho, hd']
      · simp [hw]
    | some o =>
      obtain ⟨d', hm, hl⟩ := ih hn (d := (v, some o) :: d) fun w hw => by
        have hne : (w == v) = false := by
          rw [beq_eq_false_iff_ne]
          rintro rfl
          exact hv hw
        rw [List.lookup_cons, hne]
        exact hd w (List.mem_cons_of_mem v hw)
      have he : verbEntry f v = some (v.key, o.toJson) := by simp [verbEntry, ho]
      refine ⟨d', ?_, fun w => ?_⟩
      · rw [List.filterMap_cons, he, Record.ofMembers_field (pathItem_step hd' (hf v o ho))]
        exact hm
      · rw [hl w]
        by_cases hw : w = v
        · subst hw
          simp [hv, ho]
        · have hne : (w == v) = false := by simpa using hw
          simp [hw, List.lookup_cons, hne]

theorem pathItem_toJson (x : PathItem) :
    x.toJson = .record (Verb.all.filterMap (verbEntry x.operation?)) := by
  rw [PathItem.toJson, PathItem.operations, List.map_filterMap]
  simp only [Option.map_map]
  rfl

theorem mem_verbs (v : Verb) : v ∈ Verb.all := by
  cases v <;> decide

theorem pathItem_recovers {x : PathItem}
    (h : ∀ v o, x.operation? v = some o → Recovers operation.read o.toJson o) :
    Recovers pathItem.read x.toJson x := by
  rw [pathItem_toJson]
  refine Record.recovers fun q hd => ?_
  have ho : ∀ v o, x.operation? v = some o → operation.read q o.toJson.node = pure o := by
    intro v o hv
    have he : verbEntry x.operation? v = some (v.key, o.toJson) := by simp [verbEntry, hv]
    exact h v o hv q (hd _ (List.mem_filterMap.2 ⟨v, mem_verbs v, he⟩))
  have hn : Verb.all.Nodup := by decide
  obtain ⟨d, hm, hl⟩ := pathItem_members ho hn (d := []) fun _ _ => rfl
  refine ⟨d, hm, ?_⟩
  have hf : (fun v => (d.lookup v).getD none) = x.operation? := by
    funext v
    rw [hl v, if_pos (mem_verbs v)]
  simp only [pathItem, hf]
  rfl

theorem document_recovers {x : Document}
    (hd : ∀ m, x.definitions = some m → ∀ e ∈ m.entries, Recovers readSchema e.2.toJson e.2)
    (hp : ∀ e ∈ x.paths.entries, Recovers pathItem.read e.2.toJson e.2) :
    Recovers document.read x.toJson x := by
  let paths := if x.paths.isEmpty then none else some x.paths
  let tags := if x.tags.isEmpty then none else some x.tags
  let d₂ : DocumentDraft := { document.start with version := some x.version, info := some x.info }
  let d₃ (v : Option String) : DocumentDraft := { d₂ with host := v.map some }
  let d₄ (v : Option String) : DocumentDraft := { d₃ x.host with basePath := v.map some }
  let d₅ (v : Option (OrderedMap Schema)) : DocumentDraft :=
    { d₄ x.basePath with definitions := v.map some }
  let d₆ (v : Option (OrderedMap PathItem)) : DocumentDraft := { d₅ x.definitions with paths := v }
  let d₇ (v : Option (List Tag)) : DocumentDraft := { d₆ paths with tags := v }
  refine Record.recovers fun q h => ⟨d₇ tags, ?_, ?_⟩
  · rw [← List.append_nil (Json.items? "tags" Tag.toJson x.tags)] at h ⊢
    simp only [Json.items?_eq, Json.map?_eq, List.append_assoc, List.cons_append, List.nil_append,
      List.forall_mem_append, List.forall_mem_cons] at h ⊢
    obtain ⟨_, hi, _, _, hds, hps, hts, _⟩ := h
    refine (Record.ofMembers_field rfl).trans ?_
    have hinfo : document.step q { document.start with version := some x.version } "info"
        x.info.toJson.node = pure d₂ := by
      have h : once "info" none (info.read q _) = pure (some x.info) :=
        once_none (info_recovers x.info q hi)
      simp only [document, h]
      rfl
    refine (Record.ofMembers_field hinfo).trans ?_
    refine (Record.ofMembers_optional d₃ rfl fun _ _ => rfl).trans ?_
    refine (Record.ofMembers_optional d₄ rfl fun _ _ => rfl).trans ?_
    refine (Record.ofMembers_optional d₅ rfl fun m hs => ?_).trans ?_
    · have hne : m.toJson Schema.toJson ≠ .null := nofun
      have hr := readMap_recovers (hd m hs) q (depth_of_entry hds m hs)
      have h : once "definitions" (d₅ none).definitions (readOption (readMap readSchema q) _) =
          pure (some (some m)) := once_none (readOption_node hne hr)
      simp only [document, h]
      rfl
    refine (Record.ofMembers_optional d₆ rfl fun m hs => ?_).trans ?_
    · obtain rfl := eq_of_guarded hs
      have h : once "paths" (d₆ none).paths (readMap pathItem.read q _) = pure (some x.paths) :=
        once_none (readMap_recovers hp q (depth_of_entry hps _ hs))
      simp only [document, h]
      rfl
    have htags : ∀ ts, tags = some ts → document.step q (d₆ paths) "tags"
        (Json.list (ts.map Tag.toJson)).node = pure (d₇ (some ts)) := by
      intro ts hs
      have h : once "tags" (d₆ paths).tags (readList tag.read q _) = pure (some ts) :=
        once_none (readList_recovers (fun t _ => tag_recovers t) q (depth_of_entry hts ts hs))
      simp only [document, h]
      rfl
    exact Record.ofMembers_optional d₇ rfl htags
  · simp only [document, need, d₇, d₆, d₅, d₄, d₃, d₂, Resolved.getD_map_some, paths, tags,
      getD_items, getD_map]
    rfl

end TypedClient.Decode
