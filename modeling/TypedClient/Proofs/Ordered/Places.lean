import TypedClient.OrderedSet

set_option autoImplicit false

namespace TypedClient

variable {α β : Type} [DecidableEq α] [DecidableEq β]

/-- The items of `xs`, in the order of their first places. -/
structure FirstPlaces (ds xs : List α) : Prop where
  mem : ∀ x, x ∈ ds ↔ x ∈ xs
  order : ds.Pairwise fun x y => xs.idxOf x < xs.idxOf y

theorem firstPlaces_distinct (xs : List α) : FirstPlaces (distinct xs) xs := by
  refine ⟨fun _ => mem_distinct, ?_⟩
  induction xs with
  | nil => exact .nil
  | cons x xs ih =>
    -- Behind `x` every other item comes one place later.
    have hidx {y : α} (hy : y ∈ (distinct xs).filter fun y => y ≠ x) :
        (x :: xs).idxOf y = xs.idxOf y + 1 := by
      have hne : x ≠ y := by
        rintro rfl
        simp at hy
      rw [List.idxOf_cons, beq_false_of_ne hne, cond_false]
    refine List.pairwise_cons.2 ⟨fun y hy => ?_, (ih.filter _).imp_of_mem fun hy hz h => ?_⟩
    · rw [List.idxOf_cons_self, hidx hy]
      exact Nat.succ_pos _
    · rw [hidx hy, hidx hz]
      exact Nat.succ_lt_succ h

theorem firstPlaces_iff {ds xs : List α} : FirstPlaces ds xs ↔ ds = distinct xs := by
  constructor
  · intro h
    have hd := firstPlaces_distinct xs
    have hn : ds.Nodup := h.order.imp fun {x y} hlt (he : x = y) => Nat.lt_irrefl _ (he ▸ hlt)
    have hp : ds.Perm (distinct xs) :=
      (List.perm_ext_iff_of_nodup hn (nodup_distinct xs)).2 fun x =>
        (h.mem x).trans (hd.mem x).symm
    exact hp.eq_of_pairwise (fun _ _ _ _ hxy hyx => absurd hyx (Nat.lt_asymm hxy)) h.order hd.order
  · rintro rfl
    exact firstPlaces_distinct xs

theorem distinct_filter (p : α → Bool) (xs : List α) :
    distinct (xs.filter p) = (distinct xs).filter p := by
  induction xs with
  | nil => rfl
  | cons x xs ih =>
    cases hp : p x with
    | true => simp [distinct, hp, ih, Bool.and_comm]
    | false =>
      rw [List.filter_cons_of_neg (by simp [hp]), ih, distinct,
        List.filter_cons_of_neg (by simp [hp]), List.filter_filter]
      refine List.filter_congr fun y _ => ?_
      by_cases hy : y = x <;> simp [hy, hp]

theorem distinct_map_distinct (f : α → β) (xs : List α) :
    distinct ((distinct xs).map f) = distinct (xs.map f) := by
  induction xs with
  | nil => rfl
  | cons x xs ih =>
    have hf : (((distinct xs).filter fun y => y ≠ x).map f).filter (fun z => z ≠ f x) =
        ((distinct xs).map f).filter fun z => z ≠ f x := by
      rw [List.filter_map, List.filter_map, List.filter_filter]
      congr 1
      refine List.filter_congr fun y _ => ?_
      by_cases hy : y = x <;> simp [hy]
    rw [distinct, List.map_cons, List.map_cons, distinct, distinct, ← distinct_filter, hf,
      distinct_filter, ih]

theorem distinct_append (xs ys : List α) :
    distinct (xs ++ ys) = distinct xs ++ (distinct ys).filter fun y => y ∉ xs := by
  induction xs with
  | nil => simp [distinct, List.filter_eq_self.2]
  | cons x xs ih =>
    simp only [List.cons_append, distinct, ih, List.filter_append, List.filter_filter]
    congr 2
    apply List.filter_congr
    intro y _
    simp

theorem distinct_append_of_subset {xs ys : List α} (h : ys ⊆ xs) :
    distinct (xs ++ ys) = distinct xs := by
  have hf : ((distinct ys).filter fun y => y ∉ xs) = [] := by
    rw [List.filter_eq_nil_iff]
    intro y hy
    simpa using h (mem_distinct.1 hy)
  rw [distinct_append, hf, List.append_nil]

theorem distinct_concat (xs : List α) (x : α) :
    distinct (xs ++ [x]) = if x ∈ xs then distinct xs else distinct xs ++ [x] := by
  by_cases h : x ∈ xs
  · rw [distinct_append_of_subset (by simpa using h), if_pos h]
  · simp [distinct_append, distinct, h]

theorem distinct_of_nodup {xs : List α} (h : xs.Nodup) : distinct xs = xs := by
  induction xs with
  | nil => rfl
  | cons x xs ih =>
    obtain ⟨hx, hn⟩ := List.nodup_cons.1 h
    rw [distinct, ih hn, List.filter_eq_self.2]
    intro y hy
    simpa using ne_of_mem_of_not_mem hy hx

theorem distinct_perm {xs ys : List α} (h : xs.Perm ys) : (distinct xs).Perm (distinct ys) :=
  (List.perm_ext_iff_of_nodup (nodup_distinct xs) (nodup_distinct ys)).2 fun _ =>
    mem_distinct.trans (h.mem_iff.trans mem_distinct.symm)

namespace OrderedSet

theorem ofList_items (s : OrderedSet α) : ofList s.items = s := by
  cases s with
  | mk items nodup => rw [ofList, mk.injEq, distinct_of_nodup nodup]

theorem ofList_append (xs ys : List α) : ofList (xs ++ ys) = (ofList xs).union (ofList ys) := by
  simp [ofList, union, distinct_append, mem_distinct]

theorem contains_ofList {x : α} {xs : List α} : (ofList xs).contains x = true ↔ x ∈ xs := by
  simp [contains, ofList, mem_distinct]

theorem union_assoc (s t u : OrderedSet α) : (s.union t).union u = s.union (t.union u) := by
  simp only [union, mk.injEq, List.append_assoc, List.filter_append, List.filter_filter]
  congr 2
  apply List.filter_congr
  intro x _
  by_cases hs : x ∈ s.items <;> by_cases ht : x ∈ t.items <;> simp [hs, ht]

end OrderedSet

end TypedClient
