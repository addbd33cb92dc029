import TypedClient.Text.WordCase

set_option autoImplicit false

namespace TypedClient.Text

theorem all_of_mem_runsFrom {run s r : List Char} (hrun : ∀ c ∈ run, isAlphanumeric c = true)
    (h : r ∈ runsFrom run s) : ∀ c ∈ r, isAlphanumeric c = true := by
  induction s generalizing run with
  | nil =>
    obtain rfl := List.mem_singleton.1 h
    exact fun c hc => hrun c (List.mem_reverse.1 hc)
  | cons c s ih =>
    rw [runsFrom] at h
    split at h
    · next hc => exact ih (List.forall_mem_cons.2 ⟨hc, hrun⟩) h
    · rcases List.mem_cons.1 h with rfl | h
      · exact fun c hc => hrun c (List.mem_reverse.1 hc)
      · exact ih (fun _ hm => absurd hm List.not_mem_nil) h

theorem subset_of_mem_wordsFrom {word s w : List Char} {m : WordState}
    (h : w ∈ wordsFrom word m s) : w ⊆ word ++ s := by
  fun_induction wordsFrom word m s with
  | case1 word m => simp_all
  | case2 word m c => simp_all
  | case3 word m c d s hu ih =>
    rcases List.mem_cons.1 h with rfl | h
    · simp
    · intro e he
      have := ih h he
      grind
  | case4 word m c d s _ hu ih =>
    rcases List.mem_cons.1 h with rfl | h
    · simp
    · intro e he
      have := ih h he
      grind
  | case5 word m c d s _ _ ih =>
    intro e he
    have := ih h he
    grind

theorem isAlphanumeric_of_mem_words {s w : List Char} (h : w ∈ words s) :
    ∀ c ∈ w, isAlphanumeric c = true := by
  obtain ⟨r, hr, hw⟩ := List.mem_flatMap.1 h
  have hall := all_of_mem_runsFrom (fun _ hm => absurd hm List.not_mem_nil) (List.mem_filter.1 hr).1
  exact fun c hc => hall c (subset_of_mem_wordsFrom hw hc)

theorem ofNat_ne_slash {n : Nat} (h : n ≠ 47) : Char.ofNat n ≠ '/' := by
  intro he
  by_cases hv : n.isValidChar
  · rw [Char.ofNat, dif_pos hv] at he
    exact h (congrArg Char.toNat he)
  · rw [Char.ofNat, dif_neg hv] at he
    exact absurd he (by decide)

theorem slash_not_mem_changeCase {several : List (Nat × List Nat)} {shifts : List Shift}
    (hs : ∀ e ∈ several, 47 ∉ e.2) (hd : ∀ s ∈ shifts, 47 < (s.span.first : Int) + s.distance)
    {c : Char} (hc : c ≠ '/') : '/' ∉ changeCase several shifts c := by
  unfold changeCase
  split
  · next codes h =>
    obtain ⟨p, hp, rfl⟩ : ∃ p ∈ several, p.2 = codes := by
      obtain ⟨pre, post, he, -⟩ := List.lookup_eq_some_iff.1 h
      exact ⟨(c.toNat, codes), by simp [he], rfl⟩
    intro hm
    obtain ⟨n, hn, he⟩ := List.mem_map.1 hm
    exact ofNat_ne_slash (fun h => hs p hp (h ▸ hn)) he
  · split
    · next s h =>
      have hfirst := hd s (List.mem_of_find?_eq_some h)
      have hholds := List.find?_some h
      simp only [Span.holds, Bool.and_eq_true, decide_eq_true_eq] at hholds
      rw [List.mem_singleton]
      exact (ofNat_ne_slash (by omega)).symm
    · simpa using hc.symm

theorem ascii_ne_slash {f : Char → Char}
    (hf : ∀ n < 128, f (Char.ofNat n) = '/' → Char.ofNat n = '/') {c : Char} (hn : c.toNat < 128)
    (hc : c ≠ '/') : '/' ∉ [f c] := by
  have h := hf c.toNat hn
  rw [Char.ofNat_toNat] at h
  simpa using fun he : '/' = f c => hc (h he.symm)

theorem slash_not_mem_raise {c : Char} (hc : c ≠ '/') : '/' ∉ raise c := by
  unfold raise
  split
  · next hn => exact ascii_ne_slash (by decide) hn hc
  · exact slash_not_mem_changeCase (by decide +kernel) (by decide +kernel) hc

theorem slash_not_mem_lower {c : Char} (hc : c ≠ '/') : '/' ∉ lower c := by
  unfold lower
  split
  · next hn => exact ascii_ne_slash (by decide) hn hc
  · exact slash_not_mem_changeCase (by decide +kernel) (by decide +kernel) hc

theorem slash_not_mem_lowerWord {w : List Char} (h : '/' ∉ w) : '/' ∉ lowerWord w := by
  fun_induction lowerWord w with
  | case1 => exact h
  | case2 => decide
  | case3 c s _ ih =>
    obtain ⟨hc, hs⟩ := List.ne_and_not_mem_of_not_mem_cons h
    rw [List.mem_append, not_or]
    exact ⟨slash_not_mem_lower hc.symm, ih hs⟩

theorem slash_not_mem_capitalWord {w : List Char} (h : '/' ∉ w) : '/' ∉ capitalWord w := by
  cases w with
  | nil => exact h
  | cons c s =>
    obtain ⟨hc, hs⟩ := List.ne_and_not_mem_of_not_mem_cons h
    rw [capitalWord, List.mem_append, not_or]
    exact ⟨slash_not_mem_raise hc.symm, slash_not_mem_lowerWord hs⟩

theorem slash_not_mem_pascalCase (s : String) : '/' ∉ (pascalCase s).toList := by
  rw [pascalCase, String.toList_ofList, List.mem_flatMap]
  rintro ⟨w, hw, hm⟩
  refine slash_not_mem_capitalWord (fun hs => ?_) hm
  exact absurd (isAlphanumeric_of_mem_words hw '/' hs) (by decide)

end TypedClient.Text
