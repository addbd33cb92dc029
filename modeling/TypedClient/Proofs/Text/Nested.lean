import Mathlib.Data.List.TakeDrop
import TypedClient.Proofs.Text.Quoted
import TypedClient.Text.Replace

/-!
Cutting a text at the marks that stand outside brackets and quoted literals, and reading the name
that a piece begins with. A text that closes what it opens is never cut.
-/

set_option autoImplicit false

namespace TypedClient.Text

/-- In the open, in a literal, or after a backslash in a literal; `depth` counts the brackets that
are open around it. -/
inductive Standing where
  | plain (depth : Nat)
  | quoted (depth : Nat)
  | escaped (depth : Nat)
  deriving DecidableEq

def openingBrackets : List Char := ['(', '[', '\x7b']

def closingBrackets : List Char := [')', ']', '\x7d']

def Standing.next : Standing → Char → Standing
  | .plain d, c =>
    if c = '\'' then .quoted d
    else if c ∈ openingBrackets then .plain (d + 1)
    else if c ∈ closingBrackets then .plain (d - 1)
    else .plain d
  | .quoted d, c => if c = '\'' then .plain d else if c = '\\' then .escaped d else .quoted d
  | .escaped d, _ => .quoted d

def glue (s : List Char) : List (List Char) → List (List Char)
  | [] => [s]
  | p :: ps => (s ++ p) :: ps

theorem glue_append (s t : List Char) (ps : List (List Char)) :
    glue (s ++ t) ps = glue s (glue t ps) := by
  cases ps <;> simp [glue]

/-- The pieces between the marks `m` that stand in the open with no bracket around them. -/
def outerPieces (m : Char) : Standing → List Char → List (List Char)
  | _, [] => [[]]
  | a, c :: s =>
    if a = .plain 0 ∧ c = m then [] :: outerPieces m (.plain 0) s
    else glue [c] (outerPieces m (a.next c) s)

/-- The text leads the reader from one standing to another and is not cut on the way. -/
def Leads (m : Char) (a b : Standing) (v : List Char) : Prop :=
  ∀ s, outerPieces m a (v ++ s) = glue v (outerPieces m b s)

theorem outerPieces_glue (m : Char) (a : Standing) (s : List Char) :
    glue [] (outerPieces m a s) = outerPieces m a s := by
  cases s with
  | nil => rfl
  | cons c s =>
    rw [outerPieces]
    split
    · rfl
    · rw [← glue_append, List.nil_append]

namespace Leads

variable {m c : Char} {a b d : Standing} {v w : List Char}

theorem nil (m : Char) (a : Standing) : Leads m a a [] := fun s => (outerPieces_glue m a s).symm

theorem append (hv : Leads m a b v) (hw : Leads m b d w) : Leads m a d (v ++ w) := by
  intro s
  rw [List.append_assoc, hv, hw, glue_append]

theorem char (h : a ≠ .plain 0 ∨ c ≠ m) : Leads m a (a.next c) [c] := by
  intro s
  rw [List.singleton_append, outerPieces, if_neg fun he => h.elim (· he.1) (· he.2)]

theorem cons (h : a ≠ .plain 0 ∨ c ≠ m) (hv : Leads m (a.next c) b v) : Leads m a b (c :: v) :=
  (char h).append hv

end Leads

/-- Wherever it stands in the open, the text closes what it opens and is not cut. -/
def Whole (m : Char) (v : List Char) : Prop :=
  ∀ depth, Leads m (.plain depth) (.plain depth) v

def Inner (m : Char) (v : List Char) : Prop :=
  ∀ depth, Leads m (.plain (depth + 1)) (.plain (depth + 1)) v

def isPlainLetter (c : Char) : Bool :=
  c ≠ '\'' && !openingBrackets.contains c && !closingBrackets.contains c

section Whole

variable {m : Char} {v w : List Char}

theorem Whole.inner (h : Whole m v) : Inner m v := fun depth => h (depth + 1)

theorem whole_nil (m : Char) : Whole m [] := fun _ => .nil m _

theorem Whole.append (hv : Whole m v) (hw : Whole m w) : Whole m (v ++ w) :=
  fun depth => (hv depth).append (hw depth)

theorem Inner.append (hv : Inner m v) (hw : Inner m w) : Inner m (v ++ w) :=
  fun depth => (hv depth).append (hw depth)

theorem next_plainLetter {c : Char} (h : isPlainLetter c = true) (depth : Nat) :
    (Standing.plain depth).next c = .plain depth := by
  simp only [isPlainLetter, Bool.and_eq_true, decide_eq_true_eq, Bool.not_eq_true',
    List.contains_eq_mem, decide_eq_false_iff_not] at h
  simp [Standing.next, h]

theorem leads_letters {depth : Nat} (hp : v.all isPlainLetter = true) (h : depth ≠ 0 ∨ m ∉ v) :
    Leads m (.plain depth) (.plain depth) v := by
  induction v with
  | nil => exact .nil m _
  | cons c v ih =>
    obtain ⟨hc, hv⟩ := Bool.and_eq_true_iff.1 (List.all_cons ▸ hp)
    have hl : Leads m (.plain depth) ((Standing.plain depth).next c) [c] :=
      .char (h.imp (by simp) fun hm => (List.ne_of_not_mem_cons hm).symm)
    rw [next_plainLetter hc] at hl
    exact hl.append (ih hv (h.imp_right List.not_mem_of_not_mem_cons))

theorem whole_letters (hp : v.all isPlainLetter = true) (hm : m ∉ v) : Whole m v :=
  fun _ => leads_letters hp (.inr hm)

theorem inner_letters (hp : v.all isPlainLetter = true) : Inner m v :=
  fun depth => leads_letters hp (.inl depth.succ_ne_zero)

/-- Brackets around a text keep it from being cut. -/
theorem whole_brackets {o c : Char} (ho : o ∈ openingBrackets) (hc : c ∈ closingBrackets)
    (hm : m ≠ o) (h : Inner m v) : Whole m (o :: (v ++ [c])) := by
  intro depth
  have hopen : (Standing.plain depth).next o = .plain (depth + 1) := by
    rw [Standing.next, if_neg (by rintro rfl; simp [openingBrackets] at ho), if_pos ho]
  have hclose : (Standing.plain (depth + 1)).next c = .plain depth := by
    rw [Standing.next, if_neg (by rintro rfl; simp [closingBrackets] at hc), if_neg, if_pos hc]
    · rfl
    · revert hc
      simp only [closingBrackets, openingBrackets, List.mem_cons]
      rintro (rfl | rfl | rfl | h) <;> simp_all
  refine .cons (.inr hm.symm) ?_
  rw [hopen]
  refine (h depth).append ?_
  have hl : Leads m (.plain (depth + 1)) ((Standing.plain (depth + 1)).next c) [c] :=
    .char (.inl (by simp))
  rwa [hclose] at hl

theorem leads_escape (depth : Nat) (s : List Char) :
    Leads m (.quoted depth) (.quoted depth) (Quoted.escape s) := by
  induction s with
  | nil => exact .nil m _
  | cons c s ih =>
    by_cases hc : c = '\\' ∨ c = '\''
    · rw [Quoted.escape, if_pos hc]
      refine .cons (.inl (by simp)) ?_
      have hn : (Standing.quoted depth).next '\\' = .escaped depth := rfl
      rw [hn]
      exact .cons (.inl (by simp)) ih
    · rw [Quoted.escape, if_neg hc]
      rw [not_or] at hc
      refine .cons (.inl (by simp)) ?_
      have hn : (Standing.quoted depth).next c = .quoted depth := by simp [Standing.next, hc]
      rwa [hn]

theorem whole_literal (hm : m ≠ '\'') (s : List Char) : Whole m (Quoted.literal s) := by
  intro depth
  refine .cons (.inr hm.symm) ?_
  have ho : (Standing.plain depth).next '\'' = .quoted depth := rfl
  rw [ho]
  exact (leads_escape depth s).append (.cons (.inl (by simp)) (.nil m _))

end Whole

theorem outerPieces_whole {m : Char} {v : List Char} (h : Whole m v) (s : List Char) :
    outerPieces m (.plain 0) (v ++ m :: s) = v :: outerPieces m (.plain 0) s := by
  rw [h 0, outerPieces, if_pos ⟨rfl, rfl⟩]
  simp [glue]

/-- Texts that are not cut are what a text is cut into when they stand in it one after the other,
each mark followed by a blank. -/
theorem outerPieces_following {m : Char} (hb : m ≠ ' ') {v : List Char} {vs : List (List Char)}
    (hv : Whole m v) (hvs : ∀ w ∈ vs, Whole m w) :
    outerPieces m (.plain 0) (v ++ vs.flatMap fun w => m :: ' ' :: w) =
      v :: vs.map fun w => ' ' :: w := by
  induction vs generalizing v with
  | nil =>
    have h := hv 0 []
    rw [List.append_nil] at h
    simpa [outerPieces, glue] using h
  | cons w vs ih =>
    obtain ⟨hw, hvs⟩ := List.forall_mem_cons.1 hvs
    have hbw : Whole m (' ' :: w) :=
      (whole_letters (v := [' ']) (by decide) (by simpa using hb)).append hw
    have ih := ih hbw hvs
    simp only [List.flatMap_cons, List.cons_append, List.map_cons] at ih ⊢
    rw [outerPieces_whole hv, ih]

def between? (opening closing s : List Char) : Option (List Char) :=
  (after opening s).bind fun r => (after closing.reverse r.reverse).map List.reverse

theorem between?_append (opening closing s : List Char) :
    between? opening closing (opening ++ (s ++ closing)) = some s := by
  simp [between?, after_append]

theorem between?_eq_none {opening closing s : List Char} (h : ¬ opening <+: s) :
    between? opening closing s = none := by
  rw [between?]
  cases ha : after opening s with
  | none => rfl
  | some r => exact absurd ⟨r, (eq_append_of_after ha).symm⟩ h

namespace Quoted

/-- Reads up to the closing quote. Property names may break lines, so a literal may. -/
def readEscaped : List Char → Option (List Char × List Char)
  | [] => none
  | '\'' :: s => some ([], s)
  | '\\' :: c :: s => (readEscaped s).map fun (n, r) => (c :: n, r)
  | c :: s => (readEscaped s).map fun (n, r) => (c :: n, r)

def readKey : List Char → Option (List Char × List Char)
  | '\'' :: s => readEscaped s
  | s => some (s.span fun c => c ≠ ':')

theorem readEscaped_escape (s t : List Char) :
    readEscaped (escape s ++ '\'' :: t) = some (s, t) := by
  induction s with
  | nil => rfl
  | cons c s ih =>
    by_cases hc : c = '\\' ∨ c = '\''
    · simp [escape, hc, readEscaped, ih]
    · rw [not_or] at hc
      rw [escape, if_neg (not_or.2 hc), List.cons_append, readEscaped.eq_def]
      split <;> simp_all

theorem span_colon {s t : List Char} (h : ':' ∉ s) :
    (s ++ ':' :: t).span (fun c => c ≠ ':') = (s, ':' :: t) := by
  have hs : ∀ c ∈ s, decide (c ≠ ':') = true := fun c hc => by
    simpa using fun he : c = ':' => h (he ▸ hc)
  rw [List.span_eq_takeWhile_dropWhile, List.takeWhile_append_of_pos hs,
    List.dropWhile_append_of_pos hs]
  simp

theorem readKey_key (name : String) (t : List Char) :
    readKey ((key name).toList ++ ':' :: t) = some (name.toList, ':' :: t) := by
  unfold key
  split
  · next h =>
    have hq : '\'' ∉ name.toList := not_mem_of_isIdentifier (by decide) h
    have hc : ':' ∉ name.toList := not_mem_of_isIdentifier (by decide) h
    rw [readKey.eq_def]
    split
    · next s hs => cases hn : name.toList <;> simp_all
    · rw [span_colon hc]
  · simp [quote, literal, readKey, readEscaped_escape]

end Quoted

end TypedClient.Text
