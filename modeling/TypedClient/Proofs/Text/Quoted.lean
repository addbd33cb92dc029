import TypedClient.Text.Quoted

set_option autoImplicit false

namespace TypedClient.Text.Quoted

theorem escape_read {s s' t t' : List Char}
    (h : escape s ++ '\'' :: t = escape s' ++ '\'' :: t') : s = s' ∧ t = t' := by
  induction s generalizing s' with
  | nil =>
    cases s' with
    | nil => exact ⟨rfl, (List.cons.inj h).2⟩
    | cons c s' => by_cases hc : c = '\\' ∨ c = '\'' <;> simp_all [escape, eq_comm]
  | cons c s ih =>
    cases s' with
    | nil => by_cases hc : c = '\\' ∨ c = '\'' <;> simp_all [escape]
    | cons d s' =>
      by_cases hc : c = '\\' ∨ c = '\'' <;> by_cases hd : d = '\\' ∨ d = '\'' <;>
        simp only [escape, hc, hd, if_true, if_false, List.cons_append, List.cons.injEq] at h
      · obtain ⟨hs, ht⟩ := ih h.2.2
        exact ⟨by rw [h.2.1, hs], ht⟩
      · exact absurd (.inl h.1.symm) hd
      · exact absurd (.inl h.1) hc
      · obtain ⟨hs, ht⟩ := ih h.2
        exact ⟨by rw [h.1, hs], ht⟩

theorem quote_read {v v' : String} {t t' : List Char}
    (h : (quote v).toList ++ t = (quote v').toList ++ t') : v = v' ∧ t = t' := by
  simp only [quote, literal, String.toList_ofList, List.cons_append, List.append_assoc,
    List.cons.injEq, true_and, List.nil_append] at h
  obtain ⟨hs, ht⟩ := escape_read h
  exact ⟨String.toList_inj.1 hs, ht⟩

/-- What holds no `d` ends before the first `d`. -/
theorem until_read {d : Char} {s s' t t' : List Char} (hs : d ∉ s) (hs' : d ∉ s')
    (h : s ++ d :: t = s' ++ d :: t') : s = s' ∧ t = t' := by
  induction s generalizing s' with
  | nil =>
    cases s' with
    | nil => exact ⟨rfl, (List.cons.inj h).2⟩
    | cons e s' => exact absurd (List.cons.inj h).1 (List.ne_of_not_mem_cons hs')
  | cons c s ih =>
    cases s' with
    | nil => exact absurd (List.cons.inj h).1.symm (List.ne_of_not_mem_cons hs)
    | cons e s' =>
      obtain ⟨hc, h⟩ := List.cons.inj h
      obtain ⟨hs, ht⟩ := ih (List.not_mem_of_not_mem_cons hs) (List.not_mem_of_not_mem_cons hs') h
      exact ⟨by rw [hc, hs], ht⟩

theorem all_of_isIdentifier {s : List Char} (h : isIdentifier s = true) :
    ∀ c ∈ s, continues c = true := by
  cases s with
  | nil => simp
  | cons c s => simp_all [isIdentifier, continues]

theorem not_mem_of_isIdentifier {d : Char} (hd : continues d = false) {s : List Char}
    (h : isIdentifier s = true) : d ∉ s := by
  intro hm
  have := all_of_isIdentifier h d hm
  simp_all

/-- No identifier is a quoted literal. -/
theorem isIdentifier_ne_quote {s t u : List Char} (v : String) (h : isIdentifier s = true) :
    s ++ t ≠ (quote v).toList ++ u := by
  cases s with
  | nil => simp [isIdentifier] at h
  | cons c s =>
    intro he
    simp only [quote, literal, String.toList_ofList, List.cons_append, List.cons.injEq] at he
    have hd : continues '\'' = false := by decide
    exact not_mem_of_isIdentifier hd h (by simp [he.1])

theorem key_read {n n' : String} {t t' : List Char}
    (h : (key n).toList ++ ':' :: t = (key n').toList ++ ':' :: t') : n = n' ∧ t = t' := by
  have hd : continues ':' = false := by decide
  unfold key at h
  split at h <;> split at h
  · next hn hn' =>
    obtain ⟨hs, ht⟩ :=
      until_read (not_mem_of_isIdentifier hd hn) (not_mem_of_isIdentifier hd hn') h
    exact ⟨String.toList_inj.1 hs, ht⟩
  · next hn _ => exact absurd h (isIdentifier_ne_quote n' hn)
  · next _ hn' => exact absurd h.symm (isIdentifier_ne_quote n hn')
  · obtain ⟨hs, ht⟩ := quote_read h
    exact ⟨hs, (List.cons.inj ht).2⟩

end TypedClient.Text.Quoted
