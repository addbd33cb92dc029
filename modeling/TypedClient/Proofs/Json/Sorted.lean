import TypedClient.Json

set_option autoImplicit false

namespace TypedClient.Json

/-- No record holds its entries but in the order of their keys. -/
inductive Sorted : Json → Prop where
  | null : Sorted .null
  | bool (b : Bool) : Sorted (.bool b)
  | integer (i : Int) : Sorted (.integer i)
  | float (x : Decimal.Binary64) : Sorted (.float x)
  | text (s : String) : Sorted (.text s)
  | list {xs : List Json} : (∀ x ∈ xs, Sorted x) → Sorted (.list xs)
  | record {es : List (String × Json)} :
    es.Pairwise (fun a b => a.1 < b.1) → (∀ e ∈ es, Sorted e.2) → Sorted (.record es)

theorem putSorted_last {k : String} {es : List (String × Json)} (h : ∀ e ∈ es, e.1 < k) (v : Json) :
    putSorted k v es = es ++ [(k, v)] := by
  induction es with
  | nil => rfl
  | cons e es ih =>
    have he := h e List.mem_cons_self
    have hlt : ¬ k < e.1 := fun hk => String.lt_irrefl k (String.lt_trans hk he)
    have hne : k ≠ e.1 := fun hk => String.lt_irrefl k (hk ▸ he)
    rw [putSorted, if_neg hlt, if_neg hne, ih fun f hf => h f (List.mem_cons_of_mem e hf)]
    rfl

theorem sorted_eq {es : List (String × Json)} (h : es.Pairwise fun a b => a.1 < b.1) :
    sorted es = .record es := by
  have hf : ∀ (fs gs : List (String × Json)), (gs ++ fs).Pairwise (fun a b => a.1 < b.1) →
      fs.foldl (fun s e => putSorted e.1 e.2 s) gs = gs ++ fs := by
    intro fs
    induction fs with
    | nil => intro gs _; exact (List.append_nil gs).symm
    | cons f fs ih =>
      intro gs hp
      have hlast : ∀ e ∈ gs, e.1 < f.1 :=
        fun e he => (List.pairwise_append.1 hp).2.2 e he f List.mem_cons_self
      rw [List.foldl_cons, putSorted_last hlast, ih _ (by simpa using hp)]
      simp
  rw [sorted, hf es [] h]
  rfl

theorem mem_putSorted {k : String} {v : Json} {es : List (String × Json)} {e : String × Json}
    (h : e ∈ putSorted k v es) : e = (k, v) ∨ e ∈ es := by
  induction es with
  | nil => exact .inl (List.mem_singleton.1 h)
  | cons f es ih =>
    simp only [putSorted] at h
    split at h
    · exact List.mem_cons.1 h
    split at h
    · exact (List.mem_cons.1 h).imp_right (List.mem_cons_of_mem f)
    · obtain rfl | h := List.mem_cons.1 h
      · exact .inr List.mem_cons_self
      · exact (ih h).imp_right (List.mem_cons_of_mem f)

theorem putSorted_pairwise {k : String} {es : List (String × Json)}
    (h : es.Pairwise fun a b => a.1 < b.1) (v : Json) :
    (putSorted k v es).Pairwise fun a b => a.1 < b.1 := by
  induction es with
  | nil => exact List.pairwise_singleton _ _
  | cons f es ih =>
    obtain ⟨hf, hp⟩ := List.pairwise_cons.1 h
    simp only [putSorted]
    split
    · rename_i hk
      refine List.pairwise_cons.2 ⟨List.forall_mem_cons.2 ⟨hk, fun e he => ?_⟩, h⟩
      exact String.lt_trans hk (hf e he)
    split
    · rename_i _ hk
      exact List.pairwise_cons.2 ⟨hk ▸ hf, hp⟩
    · rename_i hlt hne
      refine List.pairwise_cons.2 ⟨fun e he => ?_, ih hp⟩
      obtain rfl | he := mem_putSorted he
      · exact Std.lt_of_le_of_ne (String.not_lt.1 hlt) (Ne.symm hne)
      · exact hf e he

theorem sorted_sorted {es : List (String × Json)} (h : ∀ e ∈ es, e.2.Sorted) :
    (sorted es).Sorted := by
  have hf : ∀ (es fs : List (String × Json)), (∀ e ∈ es, e.2.Sorted) →
      fs.Pairwise (fun a b => a.1 < b.1) → (∀ f ∈ fs, f.2.Sorted) →
      (record (es.foldl (fun s e => putSorted e.1 e.2 s) fs)).Sorted := by
    intro es
    induction es with
    | nil => exact fun fs _ hp hs => .record hp hs
    | cons e es ih =>
      intro fs he hp hs
      obtain ⟨he, hes⟩ := List.forall_mem_cons.1 he
      refine ih _ hes (putSorted_pairwise hp e.2) fun f hf => ?_
      obtain rfl | hf := mem_putSorted hf
      · exact he
      · exact hs f hf
  exact hf es [] h List.Pairwise.nil nofun

end TypedClient.Json
