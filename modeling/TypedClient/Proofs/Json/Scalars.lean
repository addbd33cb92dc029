import Mathlib.Algebra.Group.Int.Defs
import Mathlib.Algebra.Group.Nat.Defs
import Mathlib.Data.List.TakeDrop
import TypedClient.Json
import TypedClient.Source.JsonText

set_option autoImplicit false

namespace TypedClient.Source.JsonText

def pieceOf (c : Char) : Piece :=
  if c.toNat < 32 ∧ c ∉ ['\n', '\r', '\t', '\x08', '\x0c'] then .code c.toNat else .char c

theorem hex4?_control :
    ∀ n < 32, hex4? '0' '0' (Json.hexDigit (n / 16)) (Json.hexDigit (n % 16)) = some n := by
  decide

theorem pieces_escape {c e : Char} (h : escaped? e = some c) (hu : e ≠ 'u') (t : List Char) :
    pieces ('\\' :: e :: t) = (.char c :: (pieces t).1, (pieces t).2) := by
  rw [pieces]
  · rw [h]
  · simp_all
  · simp_all

theorem pieces_plain {c : Char} (hq : c ≠ '"') (hb : c ≠ '\\') (hc : ¬ c.toNat < 32)
    (t : List Char) : pieces (c :: t) = (.char c :: (pieces t).1, (pieces t).2) := by
  rw [pieces] <;> simp_all

theorem pieces_escapeChar (c : Char) (t : List Char) :
    pieces (Json.escapeChar c ++ t) = (pieceOf c :: (pieces t).1, (pieces t).2) := by
  unfold Json.escapeChar
  split
  · exact pieces_escape rfl (by decide) t
  · exact pieces_escape rfl (by decide) t
  · exact pieces_escape rfl (by decide) t
  · exact pieces_escape rfl (by decide) t
  · exact pieces_escape rfl (by decide) t
  · exact pieces_escape rfl (by decide) t
  · exact pieces_escape rfl (by decide) t
  · split
    · next hc =>
      simp only [List.cons_append, List.nil_append]
      rw [pieces, hex4?_control _ hc]
      simp_all [pieceOf]
    · next hc =>
      rw [List.cons_append, List.nil_append, pieces_plain (by assumption) (by assumption) hc]
      simp_all [pieceOf]

theorem pieces_text (s t : List Char) :
    pieces (s.flatMap Json.escapeChar ++ '"' :: t) = (s.map pieceOf, .ok t) := by
  induction s with
  | nil => rfl
  | cons c s ih => rw [List.flatMap_cons, List.append_assoc, pieces_escapeChar, ih, List.map_cons]

theorem not_half {n : Nat} (h : n < 32) : isHigh n = false ∧ isLow n = false := by
  simp [isHigh, isLow]
  omega

theorem characters_pieceOf (s : List Char) : characters (s.map pieceOf) = some s := by
  induction s with
  | nil => rfl
  | cons c s ih =>
    rw [List.map_cons, pieceOf]
    split
    · next hc =>
      obtain ⟨hh, hl⟩ := not_half hc.1
      -- the next piece may be a code too, and then the two are looked at together
      cases hs : s.map pieceOf with
      | nil => simp_all [characters]
      | cons p ps => cases p <;> simp_all [characters]
    · simp [characters, ih]

theorem string_text (s : String) (t : List Char) :
    string (s.toList.flatMap Json.escapeChar ++ '"' :: t) = (.scalar (.text s), .ok t) := by
  simp only [string, pieces_text, characters_pieceOf, String.ofList_toList]

/-- The text does not go on with the number before it. -/
def Ends : List Char → Prop
  | [] => True
  | c :: _ => c.isDigit = false ∧ c ≠ '.' ∧ c ≠ 'e' ∧ c ≠ 'E'

theorem spanDigits_append {ds t : List Char} (hd : ∀ c ∈ ds, c.isDigit = true) (ht : Ends t) :
    spanDigits (ds ++ t) = (ds, t) := by
  have htake : t.takeWhile Char.isDigit = [] ∧ t.dropWhile Char.isDigit = t := by
    cases t with
    | nil => exact ⟨rfl, rfl⟩
    | cons c t => simp [ht.1]
  rw [spanDigits, List.span_eq_takeWhile_dropWhile, List.takeWhile_append_of_pos hd,
    List.dropWhile_append_of_pos hd, htake.1, htake.2, List.append_nil]

theorem le_ofDigitChars (ds : List Char) (n : Nat) : n ≤ Nat.ofDigitChars 10 ds n := by
  induction ds generalizing n with
  | nil => simp
  | cons c ds ih =>
    rw [Nat.ofDigitChars_cons]
    have h := ih (10 * n + (c.toNat - '0'.toNat))
    omega

theorem gather_digits {limit n : Nat} {ds : List Char} (h : Nat.ofDigitChars 10 ds n ≤ limit) :
    gather limit n ds = (Nat.ofDigitChars 10 ds n, 0) := by
  induction ds generalizing n with
  | nil => simp [gather]
  | cons c ds ih =>
    rw [Nat.ofDigitChars_cons, Nat.mul_comm] at h ⊢
    have hle := le_ofDigitChars ds (n * 10 + (c.toNat - '0'.toNat))
    have hn : ¬ n * 10 + digitValue c > limit := by
      unfold digitValue
      omega
    simp only [gather, hn, if_false]
    exact ih h

theorem digitChar_ne_zero : ∀ n < 10, 0 < n → n.digitChar ≠ '0' := by
  decide

theorem toDigits_head {n : Nat} (h : 0 < n) : ∃ c ds, Nat.toDigits 10 n = c :: ds ∧ c ≠ '0' := by
  induction n using Nat.strongRecOn with
  | ind n ih =>
    by_cases hn : n < 10
    · exact ⟨_, _, Nat.toDigits_of_lt_base hn, digitChar_ne_zero n hn h⟩
    · obtain ⟨c, ds, hd, hc⟩ := ih (n / 10) (by omega) (by omega)
      rw [Nat.toDigits_of_base_le (by omega) (by omega), hd]
      exact ⟨c, _, rfl, hc⟩

theorem wholePart_digits {n : Nat} {t : List Char} (ht : Ends t) :
    wholePart (Nat.toDigits 10 n ++ t) = .ok (Nat.toDigits 10 n, t) := by
  have hd : ∀ c ∈ Nat.toDigits 10 n, c.isDigit = true :=
    fun c hc => Nat.isDigit_of_mem_toDigits (by omega) (by omega) hc
  rw [wholePart, spanDigits_append hd ht]
  cases n with
  | zero => rfl
  | succ n =>
    obtain ⟨c, ds, hds, hc⟩ := toDigits_head (Nat.succ_pos n)
    rw [hds]
    split <;> simp_all

theorem numeral_digits {negative : Bool} {n : Nat} {t : List Char} (ht : Ends t) :
    numeral negative (Nat.toDigits 10 n ++ t) =
      .ok (⟨negative, Nat.toDigits 10 n, none, none⟩, t) := by
  have hf : fractionPart t = .ok (none, t) := by
    cases t with
    | nil => rfl
    | cons c t => rw [fractionPart]; simp [ht.2.1]
  have he : exponentPart t = .ok (none, t) := by
    cases t with
    | nil => rfl
    | cons c t => rw [exponentPart] <;> simp_all [Ends]
  rw [numeral, wholePart_digits ht]
  simp only [bind, Except.bind, hf, he]
  rfl

theorem gather_toDigits {n : Nat} (hn : n ≤ greatestWord) :
    gather greatestWord 0 (Nat.toDigits 10 n) = (n, 0) := by
  rw [gather_digits (by simpa using hn), Nat.ofDigitChars_ten_toDigits]

theorem greatestWord_eq : greatestWord = 2 ^ 64 - 1 := rfl

theorem value_natural {n : Nat} (hn : n < 2 ^ 64) :
    Numeral.value? ⟨false, Nat.toDigits 10 n, none, none⟩ = some (.integer n) := by
  have hg := gather_toDigits (n := n) (by rw [greatestWord_eq]; omega)
  simp only [Numeral.value?, hg]
  rfl

theorem value_negative {n : Nat} (hz : n ≠ 0) (hn : n ≤ 2 ^ 63) :
    Numeral.value? ⟨true, Nat.toDigits 10 n, none, none⟩ = some (.integer (-n)) := by
  have hg := gather_toDigits (n := n) (by rw [greatestWord_eq]; omega)
  have hp : Nat.pow 2 63 = 2 ^ 63 := rfl
  have hw : ¬ (n = 0 ∨ n > Nat.pow 2 63) := by omega
  simp only [Numeral.value?, hg]
  exact if_neg hw

theorem number_natural {n : Nat} {t : List Char} (hn : n < 2 ^ 64) (ht : Ends t) :
    number false (Nat.toDigits 10 n ++ t) = (.scalar (.number (.integer n)), some t) := by
  rw [number, numeral_digits ht]
  simp only [value_natural hn]

theorem number_negative {n : Nat} {t : List Char} (hz : n ≠ 0) (hn : n ≤ 2 ^ 63) (ht : Ends t) :
    number true (Nat.toDigits 10 n ++ t) = (.scalar (.number (.integer (-n))), some t) := by
  rw [number, numeral_digits ht]
  simp only [value_negative hz hn]

end TypedClient.Source.JsonText
