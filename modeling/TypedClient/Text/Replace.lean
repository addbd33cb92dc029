set_option autoImplicit false

namespace TypedClient.Text

def after : List Char → List Char → Option (List Char)
  | [], s => some s
  | _ :: _, [] => none
  | p :: ps, c :: s => if p = c then after ps s else none

theorem after_append (p s : List Char) : after p (p ++ s) = some s := by
  induction p with
  | nil => rfl
  | cons a p ih => simp [after, ih]

theorem eq_append_of_after {p s r : List Char} (h : after p s = some r) : s = p ++ r := by
  induction p generalizing s with
  | nil => simpa [after] using h
  | cons a p ih =>
    cases s with
    | nil => simp [after] at h
    | cons c s =>
      by_cases hc : a = c
      · simp only [after, hc, if_true] at h
        simp [hc, ih h]
      · simp [after, hc] at h

/-- Puts `r` for every occurrence of the phrase `p`, `skipped` characters of an occurrence being
still under the reader. Occurrences do not overlap: the leftmost wins. -/
def replaceFrom (p r : List Char) : List Char → Nat → List Char
  | [], _ => []
  | _ :: s, skipped + 1 => replaceFrom p r s skipped
  | c :: s, 0 =>
    match after p (c :: s) with
    | some _ => r ++ replaceFrom p r s (p.length - 1)
    | none => c :: replaceFrom p r s 0

def replaceAll (p r s : List Char) : List Char := replaceFrom p r s 0

theorem replaceFrom_skip (p r a s : List Char) :
    replaceFrom p r (a ++ s) a.length = replaceFrom p r s 0 := by
  induction a with
  | nil => rfl
  | cons c a ih => simpa [replaceFrom] using ih

theorem replaceAll_match (p r s : List Char) (h : p ≠ []) :
    replaceAll p r (p ++ s) = r ++ replaceAll p r s := by
  obtain ⟨c, q, rfl⟩ := List.exists_cons_of_ne_nil h
  have hm : after (c :: q) (c :: (q ++ s)) = some s := after_append (c :: q) s
  simp only [replaceAll, List.cons_append, replaceFrom, hm, List.length_cons, Nat.add_sub_cancel]
  rw [replaceFrom_skip]

theorem replaceAll_step (p r s : List Char) (c : Char) (h : after p (c :: s) = none) :
    replaceAll p r (c :: s) = c :: replaceAll p r s := by
  simp [replaceAll, replaceFrom, h]

def pieces (m : Char) : List Char → List (List Char)
  | [] => [[]]
  | c :: s =>
    if c = m then [] :: pieces m s
    else
      match pieces m s with
      | [] => [[c]]
      | p :: ps => (c :: p) :: ps

/-- The lines of a text, `line` holding the characters of the open one, last first. A line ends at
a line feed or at the end of the text; a carriage return just before the line feed belongs to the
end of the line, and no line follows the last line feed. -/
def linesFrom : List Char → List Char → List (List Char)
  | [], [] => []
  | line, [] => [line.reverse]
  | '\r' :: line, '\n' :: s => line.reverse :: linesFrom [] s
  | line, '\n' :: s => line.reverse :: linesFrom [] s
  | line, c :: s => linesFrom (c :: line) s

def lines (s : List Char) : List (List Char) := linesFrom [] s

end TypedClient.Text
