import TypedClient.Proofs.Decode.Parameter

set_option autoImplicit false

namespace TypedClient

namespace Json

theorem items?_eq {α : Type} (name : String) (write : α → Json) (xs : List α) :
    Json.items? name write xs =
      Json.entry? name (fun xs => .list (xs.map write)) (if xs.isEmpty then none else some xs) := by
  cases xs <;> rfl

theorem map?_eq {α : Type} (name : String) (write : α → Json) (m : OrderedMap α) :
    Json.map? name write m =
      Json.entry? name (OrderedMap.toJson write) (if m.isEmpty then none else some m) := by
  unfold Json.map?
  split <;> rfl

end Json

namespace Decode

open Source (Node Scalar)

/-- In every place that is deep enough the reader recovers `x` from the tree of `j`. -/
def Recovers {α : Type} (read : Place → Node → Visit α) (j : Json) (x : α) : Prop :=
  ∀ p : Place, j.depth ≤ p.depth → read p j.node = pure x

theorem readOption_node {α : Type} {read : Node → Visit α} {j : Json} {x : α} (hn : j ≠ .null)
    (h : read j.node = pure x) : readOption read j.node = pure (some x) := by
  have hs : (some <$> read j.node : Visit (Option α)) = pure (some x) := by
    rw [h]
    rfl
  cases j with
  | null => exact absurd rfl hn
  | _ => exact hs

theorem readItems_nodes {α : Type} {read : Node → Visit α} {write : α → Json} {xs : List α}
    (h : ∀ x ∈ xs, read (write x).node = pure x) :
    readItems read (Json.nodes (xs.map write)) = pure xs := by
  induction xs with
  | nil => rfl
  | cons x xs ih =>
    have hx := h x List.mem_cons_self
    have ih := ih fun y hy => h y (List.mem_cons_of_mem x hy)
    simp only [List.map_cons, Json.nodes, readItems, hx, ih, pure_bind]

theorem readList_recovers {α : Type} {read : Place → Node → Visit α} {write : α → Json}
    {xs : List α} (h : ∀ x ∈ xs, Recovers read (write x) x) :
    Recovers (readList read) (.list (xs.map write)) xs := by
  intro p hd
  obtain ⟨q, hq, hd, _⟩ := enter_of_depth hd
  have hd := Json.itemsDepth_le.1 hd
  have hi : readItems (read q) (Json.nodes (xs.map write)) = _ :=
    readItems_nodes fun x hx => h x hx q (hd _ (List.mem_map_of_mem hx))
  have he : enterSequence p (Json.list (xs.map write)).node =
      pure (q, Json.nodes (xs.map write), .closed) := by
    simp only [Json.node, enterSequence, hq, lift_ok, pure_bind]
  simp only [readList, he, hi, check_closed, pure_bind]

theorem readEntries_members {α : Type} {read : Node → Visit α} {write : α → Json}
    {es : List (String × α)} (h : ∀ e ∈ es, read (write e.2).node = pure e.2) :
    readEntries read (Json.members (es.map fun e => (e.1, write e.2))) = pure es := by
  induction es with
  | nil => rfl
  | cons e es ih =>
    have hk : readText (.scalar (.text e.1)) = pure e.1 := rfl
    have hx := h e List.mem_cons_self
    have ih := ih fun f hf => h f (List.mem_cons_of_mem e hf)
    simp only [List.map_cons, Json.members, readEntries, hk, hx, ih, pure_bind]

theorem ofList_entries {α : Type} (m : OrderedMap α) : OrderedMap.ofList m.entries = m := by
  have h := OrderedMap.ofList_entries m.distinct
  cases hm : OrderedMap.ofList m.entries
  cases m
  simp_all

theorem readMap_recovers {α : Type} {read : Place → Node → Visit α} {write : α → Json}
    {m : OrderedMap α} (h : ∀ e ∈ m.entries, Recovers read (write e.2) e.2) :
    Recovers (readMap read) (m.toJson write) m := by
  intro p hd
  obtain ⟨q, hq, hd, _⟩ := enter_of_depth hd
  have hd := Json.entriesDepth_le.1 hd
  have hi : readEntries (read q) (Json.members (m.entries.map fun e => (e.1, write e.2))) = _ :=
    readEntries_members fun e he => h e he q (hd _ (List.mem_map_of_mem he))
  have he : enterMapping p (m.toJson write).node =
      pure (q, Json.members (m.entries.map fun e => (e.1, write e.2)), .closed) := by
    simp only [OrderedMap.toJson, Json.node, enterMapping, hq, lift_ok, pure_bind]
  simp only [readMap, he, hi, check_closed, pure_bind, ofList_entries]

namespace Record

variable {δ α : Type} {r : Record δ α} {p : Place}

theorem ofMembers_field {d d' : δ} {k : String} {x : Json} {es : List (String × Json)}
    (h : r.step p d k x.node = pure d') :
    r.ofMembers p d (Json.members ((k, x) :: es)) = r.ofMembers p d' (Json.members es) := by
  have hk : readText (.scalar (.text k)) = pure k := rfl
  simp only [Json.members, ofMembers, hk, h, pure_bind]

theorem ofMembers_optional {β : Type} {d : δ} {k : String} {write : β → Json} {v : Option β}
    {es : List (String × Json)} (set : Option β → δ) (hn : set none = d)
    (hs : ∀ x, v = some x → r.step p d k (write x).node = pure (set (some x))) :
    r.ofMembers p d (Json.members (Json.entry? k write v ++ es)) =
      r.ofMembers p (set v) (Json.members es) := by
  cases v with
  | none => rw [hn]; rfl
  | some x => exact ofMembers_field (hs x rfl)

/-- A record is recovered when its members make a draft and the draft makes the record. -/
theorem recovers {es : List (String × Json)} {x : α}
    (h : ∀ q : Place, (∀ e ∈ es, e.2.depth ≤ q.depth) →
      ∃ d, r.ofMembers q r.start (Json.members es) = pure d ∧ r.finish d = .ok x) :
    Recovers r.read (.record es) x := by
  intro p hd
  obtain ⟨q, hq, hd, _⟩ := enter_of_depth hd
  obtain ⟨d, hm, hf⟩ := h q (Json.entriesDepth_le.1 hd)
  simp only [Json.node, read, hq, lift_ok, hm, pure_bind, check_closed, hf]

end Record

end Decode

end TypedClient
