import TypedClient.Text.WordCase

set_option autoImplicit false

namespace TypedClient.Text

variable {tail : List Char}

theorem runsFrom_alphanumeric {s : List Char} (hs : ∀ c ∈ s, isAlphanumeric c = true)
    (run : List Char) : runsFrom run s = [run.reverse ++ s] := by
  induction s generalizing run with
  | nil => rw [runsFrom, List.append_nil]
  | cons c s ih =>
    rw [runsFrom, if_pos (hs c List.mem_cons_self), ih fun d hd => hs d (List.mem_cons_of_mem _ hd)]
    simp

theorem runsFrom_append (ht : ∀ c ∈ tail, isAlphanumeric c = true) (run s : List Char) :
    ∃ rs r, runsFrom run (s ++ tail) = rs ++ [r ++ tail] := by
  induction s generalizing run with
  | nil => exact ⟨[], run.reverse, runsFrom_alphanumeric ht run⟩
  | cons c s ih =>
    rw [List.cons_append, runsFrom]
    split
    · exact ih (c :: run)
    · obtain ⟨rs, r, h⟩ := ih []
      exact ⟨run.reverse :: rs, r, by rw [h, List.cons_append]⟩

theorem wordsFrom_small {s : List Char} (hs : ∀ c ∈ s, isUpper c = false) (word : List Char)
    (m : WordState) : wordsFrom word m s = [word.reverse ++ s] := by
  induction s generalizing word m with
  | nil => rw [wordsFrom, List.append_nil]
  | cons c s ih =>
    cases s with
    | nil => rw [wordsFrom, List.reverse_cons]
    | cons d s =>
      have hc : isUpper c = false := hs c List.mem_cons_self
      have hd : isUpper d = false := hs d (by simp)
      rw [wordsFrom, if_neg (by simp [hd]), if_neg (by simp [hc]),
        ih fun e he => hs e (List.mem_cons_of_mem _ he)]
      simp

theorem wordsFrom_cons (word : List Char) (m : WordState) (c : Char) {s : List Char}
    (hs : s ≠ []) : ∃ ws word' m', wordsFrom word m (c :: s) = ws ++ wordsFrom word' m' s ∧
      (word' ≠ [] ∨ ∃ d ∈ s.head?, isUpper d = true) := by
  obtain ⟨d, s, rfl⟩ := List.exists_cons_of_ne_nil hs
  rw [wordsFrom]
  split
  case isTrue h => exact ⟨[(c :: word).reverse], [], .fresh, rfl, .inr ⟨d, rfl, h.2⟩⟩
  case isFalse =>
    split
    case isTrue => exact ⟨[word.reverse], [c], .fresh, rfl, .inl (List.cons_ne_nil _ _)⟩
    case isFalse => exact ⟨[], c :: word, m.next c, rfl, .inl (List.cons_ne_nil _ _)⟩

theorem wordsFrom_append (ht : ∀ c ∈ tail, isUpper c = false) (hne : tail ≠ []) (c : Char)
    (word : List Char) (m : WordState) (s : List Char) :
    ∃ ws w, w ≠ [] ∧ wordsFrom word m (s ++ c :: tail) = ws ++ [w ++ tail] := by
  induction s generalizing word m with
  | nil =>
    obtain ⟨ws, word', m', h, hw⟩ := wordsFrom_cons word m c hne
    have hw : word' ≠ [] := hw.resolve_right fun ⟨d, hd, hu⟩ => by
      simp [ht d (List.mem_of_mem_head? hd)] at hu
    exact ⟨ws, word'.reverse, by simpa using hw,
      by rw [List.nil_append, h, wordsFrom_small ht]⟩
  | cons d s ih =>
    obtain ⟨us, word', m', h, _⟩ := wordsFrom_cons word m d (s := s ++ c :: tail) (by simp)
    obtain ⟨ws, w, hw, hs⟩ := ih word' m'
    exact ⟨us ++ ws, w, hw, by rw [List.cons_append, h, hs, List.append_assoc]⟩

theorem words_append {c : Char} (ha : ∀ d ∈ c :: tail, isAlphanumeric d = true)
    (hu : ∀ d ∈ tail, isUpper d = false) (hne : tail ≠ []) (s : List Char) :
    ∃ ws w, w ≠ [] ∧ words (s ++ c :: tail) = ws ++ [w ++ tail] := by
  obtain ⟨rs, r, hr⟩ := runsFrom_append ha [] s
  obtain ⟨ws, w, hw, hs⟩ := wordsFrom_append hu hne c [] .fresh r
  refine ⟨(rs.filter fun r => !r.isEmpty).flatMap (wordsFrom [] .fresh) ++ ws, w, hw, ?_⟩
  rw [words, hr, List.filter_append, List.flatMap_append, List.append_assoc]
  simp [hs]

theorem lowerWord_append (hne : tail ≠ []) (w : List Char) :
    ∃ p, lowerWord (w ++ tail) = p ++ lowerWord tail := by
  induction w with
  | nil => exact ⟨[], rfl⟩
  | cons c w ih =>
    obtain ⟨p, hp⟩ := ih
    refine ⟨lower c ++ p, ?_⟩
    rw [List.cons_append, lowerWord, hp, List.append_assoc]
    intro _ h
    simp [hne] at h

theorem capitalWord_append (hne : tail ≠ []) {w : List Char} (hw : w ≠ []) :
    ∃ p, capitalWord (w ++ tail) = p ++ lowerWord tail := by
  obtain ⟨c, w, rfl⟩ := List.exists_cons_of_ne_nil hw
  obtain ⟨p, hp⟩ := lowerWord_append hne w
  exact ⟨raise c ++ p, by rw [List.cons_append, capitalWord, hp, List.append_assoc]⟩

theorem camelCase_append {c : Char} (ha : ∀ d ∈ c :: tail, isAlphanumeric d = true)
    (hu : ∀ d ∈ tail, isUpper d = false) (hne : tail ≠ []) (s : String) :
    ∃ p, (camelCase (s ++ String.ofList (c :: tail))).toList = p ++ lowerWord tail := by
  obtain ⟨ws, w, hw, h⟩ := words_append ha hu hne s.toList
  rw [camelCase, String.toList_append, String.toList_ofList, h]
  cases ws with
  | nil =>
    obtain ⟨p, hp⟩ := lowerWord_append hne w
    exact ⟨p, by simp [hp]⟩
  | cons v ws =>
    obtain ⟨p, hp⟩ := capitalWord_append hne hw
    exact ⟨lowerWord v ++ ws.flatMap capitalWord ++ p, by simp [hp]⟩

end TypedClient.Text
