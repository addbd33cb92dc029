import TypedClient.OrderedMap
import TypedClient.Proofs.Ordered.Places

set_option autoImplicit false

namespace TypedClient

variable {α γ : Type}

def OrderedMap.gatherItem (key : α → String) (add : γ → α → γ) (start : γ) (m : OrderedMap γ)
    (x : α) : OrderedMap γ :=
  m.insert (key x) (add ((m.get? (key x)).getD start) x)

def OrderedMap.gather (key : α → String) (add : γ → α → γ) (start : γ) (xs : List α) :
    OrderedMap γ :=
  xs.foldl (gatherItem key add start) .empty

/-- The items `xs` are in the map, and no others. -/
structure Gathered (key : α → String) (add : γ → α → γ) (start : γ) (xs : List α)
    (m : OrderedMap γ) : Prop where
  keys : m.keys = distinct (xs.map key)
  value : ∀ k, (m.get? k).getD start = (xs.filter fun x => key x = k).foldl add start

section Gathered

variable {key : α → String} {add : γ → α → γ} {start : γ} {xs : List α} {m : OrderedMap γ}

theorem Gathered.item (h : Gathered key add start xs m) (x : α) :
    Gathered key add start (xs ++ [x]) (m.gatherItem key add start x) := by
  constructor
  · simp only [OrderedMap.gatherItem, OrderedMap.keys_insert, h.keys, mem_distinct, List.map_append,
      List.map_singleton, distinct_concat]
  · intro k
    rw [OrderedMap.gatherItem, OrderedMap.get?_insert, List.filter_append, List.foldl_append,
      ← h.value k]
    by_cases hk : key x = k <;> simp [hk]

theorem Gathered.items (h : Gathered key add start xs m) (ys : List α) :
    Gathered key add start (xs ++ ys) (ys.foldl (OrderedMap.gatherItem key add start) m) := by
  induction ys generalizing xs m with
  | nil => simpa using h
  | cons y ys ih =>
    rw [List.append_cons]
    exact ih (h.item y)

theorem gathered_gather (key : α → String) (add : γ → α → γ) (start : γ) (xs : List α) :
    Gathered key add start xs (.gather key add start xs) := by
  have h : Gathered key add start [] .empty := ⟨rfl, fun _ => rfl⟩
  exact h.items xs

theorem Gathered.entries (h : Gathered key add start xs m) :
    m.entries =
      (distinct (xs.map key)).map fun k => (k, (xs.filter fun x => key x = k).foldl add start) := by
  rw [← h.keys, OrderedMap.keys, Entries.keys, List.map_map]
  refine (List.map_id _).symm.trans (List.map_congr_left fun e he => Prod.ext rfl ?_)
  have hv := h.value e.1
  rwa [OrderedMap.get?, Entries.get?_of_mem m.distinct he] at hv

end Gathered

theorem OrderedMap.ofList_entries {es : List (String × α)}
    (h : (Entries.keys es).Nodup) : (OrderedMap.ofList es).entries = es := by
  have hf (fs : List (String × α)) (m : OrderedMap α)
      (hn : (Entries.keys (m.entries ++ fs)).Nodup) :
      (fs.foldl (fun m e => m.insert e.1 e.2) m).entries = m.entries ++ fs := by
    induction fs generalizing m with
    | nil => exact (List.append_nil _).symm
    | cons f fs ih =>
      have hk : f.1 ∉ Entries.keys m.entries := by
        simp only [Entries.keys, List.map_append, List.map_cons] at hn
        exact fun hm => (List.nodup_append.1 hn).2.2 _ hm _ List.mem_cons_self rfl
      have hm : (m.insert f.1 f.2).entries = m.entries ++ [f] := Entries.put_new hk f.2
      rw [List.foldl_cons, ih, hm, List.append_assoc]
      · rfl
      · rw [hm, List.append_assoc]
        exact hn
  exact hf es .empty h

theorem OrderedSet.foldl_singleton {β : Type} [DecidableEq α] (f : β → α) (xs : List β) :
    xs.foldl (fun s x => s.union (singleton (f x))) empty = ofList (xs.map f) := by
  have h (ys : List α) : xs.foldl (fun s x => s.union (singleton (f x))) (ofList ys) =
      ofList (ys ++ xs.map f) := by
    induction xs generalizing ys with
    | nil => simp
    | cons x xs ih =>
      have hx : (ofList ys).union (singleton (f x)) = ofList (ys ++ [f x]) :=
        (ofList_append ys [f x]).symm
      rw [List.foldl_cons, hx, ih, List.map_cons, List.append_assoc, List.singleton_append]
  exact h []

end TypedClient
