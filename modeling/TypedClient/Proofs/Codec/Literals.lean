import TypedClient.Proofs.Codec.Readable
import TypedClient.Proofs.Json.Values
import TypedClient.Proofs.Text.Literals
import TypedClient.Proofs.Text.Nested

/-!
The two texts of a union of values. Each is read literal by literal, and both give the texts of the
values unless a line ends in one of them. Only a value that is a text can have more lines than one:
the compact form of any other stands on one line.
-/

set_option autoImplicit false

namespace TypedClient

open Text.Quoted

theorem oneLine_of_forall {s : List Char} (h : ∀ c ∈ s, c ≠ '\n' ∧ c ≠ '\r') : OneLine s := by
  intro c hc
  simpa [breaksLine] using h c hc

theorem oneLine_toDigits (n : Nat) : OneLine (Nat.toDigits 10 n) := by
  refine oneLine_of_forall fun c hc => ?_
  have hd := Nat.isDigit_of_mem_toDigits (by omega) (by omega) hc
  constructor <;> rintro rfl <;> exact absurd hd (by decide)

theorem Decimal.oneLine_write (t : Binary64.Digits) :
    OneLine (Layout.document.write t).toList := by
  have hd := oneLine_toDigits
  have hz (n : Nat) : OneLine (List.replicate n '0') :=
    oneLine_of_forall fun c hc => by simp [List.eq_of_mem_replicate hc]
  have ht (n : Nat) : OneLine ((Nat.toDigits 10 t.digits).take n) :=
    fun c hc => hd _ c (List.mem_of_mem_take hc)
  have hr (n : Nat) : OneLine ((Nat.toDigits 10 t.digits).drop n) :=
    fun c hc => hd _ c (List.mem_of_mem_drop hc)
  have hl : OneLine (Nat.toDigits 10 t.digits).tail := fun c hc => hd _ c (List.mem_of_mem_tail hc)
  simp only [Layout.write]
  split_ifs <;> simp [hd, hz, ht, hr, hl, breaksLine, Layout.document]

theorem Decimal.oneLine_text (x : Binary64) : OneLine x.text.toList := by
  have hw := oneLine_write x.shortest
  unfold Binary64.text
  split_ifs <;> simp [breaksLine, hw]

namespace Json

theorem breaksLine_hexDigit : ∀ n < 16, breaksLine (hexDigit n) = false := by decide

theorem oneLine_escapeChar (c : Char) : OneLine (escapeChar c) := by
  unfold escapeChar
  split
  case h_8 =>
    split
    · next hc =>
      have hh := breaksLine_hexDigit (c.toNat / 16) (by omega)
      have hl := breaksLine_hexDigit (c.toNat % 16) (by omega)
      have hu : OneLine ['\\', 'u', '0', '0'] := by decide
      exact oneLine_append.2 ⟨hu, oneLine_cons.2 ⟨hh, oneLine_cons.2 ⟨hl, oneLine_nil⟩⟩⟩
    · next hn hr _ _ _ _ => simp_all [breaksLine]
  all_goals decide

theorem oneLine_writeText (s : String) : OneLine (writeText s).toList := by
  have he : OneLine (s.toList.flatMap escapeChar) := by
    intro c hc
    obtain ⟨d, -, hd⟩ := List.mem_flatMap.1 hc
    exact oneLine_escapeChar d c hd
  simp [writeText_chars, he, breaksLine]

theorem oneLine_integer (i : Int) : OneLine (integer i).chars := by
  cases i with
  | ofNat n =>
    rw [show (integer (Int.ofNat n)).chars = _ from natural_chars n]
    exact oneLine_toDigits n
  | negSucc n =>
    rw [show (integer (Int.negSucc n)).chars = _ from negative_chars n]
    simp [oneLine_toDigits, breaksLine]

mutual

theorem oneLine_compact : (v : Json) → OneLine v.compact.toList
  | .null => by decide
  | .bool b => by cases b <;> decide
  | .integer i => oneLine_integer i
  | .float x => Decimal.oneLine_text x
  | .text s => oneLine_writeText s
  | .list xs => by
    have hx := oneLine_compactItems xs
    simp [compact, hx, breaksLine]
  | .record es => by
    have he := oneLine_compactEntries es
    simp [compact, he, breaksLine]

theorem oneLine_compactItems : (xs : List Json) → OneLine (compactItems xs).toList
  | [] => by decide
  | [x] => oneLine_compact x
  | x :: y :: xs => by
    have hx := oneLine_compact x
    have hs := oneLine_compactItems (y :: xs)
    simp [compactItems, hx, hs, breaksLine]

theorem oneLine_compactEntries : (es : List (String × Json)) → OneLine (compactEntries es).toList
  | [] => by decide
  | [(k, x)] => by
    have hk := oneLine_writeText k
    have hx := oneLine_compact x
    simp [compactEntries, hk, hx, breaksLine]
  | (k, x) :: e :: es => by
    have hk := oneLine_writeText k
    have hx := oneLine_compact x
    have hs := oneLine_compactEntries (e :: es)
    simp [compactEntries, hk, hx, hs, breaksLine]

end

end Json

namespace Code

theorem oneLine_literalText {v : Json} :
    OneLine (literalText v).toList ↔ ∀ s, v = .text s → OneLine s.toList := by
  cases v with
  | text s => exact ⟨fun h t ht => by cases ht; exact h, fun h => h s rfl⟩
  | _ => exact ⟨fun _ _ h => Json.noConfusion h, fun _ => Json.oneLine_compact _⟩

/-- The texts that the type of a union lists. The union of none is empty. -/
def typeLiterals (s : List Char) : Option (List (List Char)) :=
  if s = [] then some [] else readItems [] [] " | ".toList s

/-- The texts that the codec of a union lists. A literal that stands alone is in no brackets. -/
def codecLiterals (s : List Char) : Option (List (List Char)) :=
  match Text.between? "t.union([".toList "])".toList s with
  | some r => if r = [] then some [] else readItems "t.literal(".toList [')'] ", ".toList r
  | none =>
    (readItem "t.literal(".toList [')'] s).bind fun (t, r) => if r = [] then some [t] else none

def valueChars (v : Json) : List Char := (literalText v).toList

theorem literal_item (v : Json) : (literal v).toList = item [] [] (valueChars v) := by
  simp [literal, quote, item, valueChars]

theorem literalCodec_item (v : Json) :
    (literalCodec (literal v)).toList = item "t.literal(".toList [')'] (valueChars v) := by
  change ("t.literal(" ++ literal v ++ ")").toList = _
  simp [literal, quote, item, valueChars]

def listed (opening closing separator : List Char) (v : Json) (vs : List Json) : List Char :=
  item opening closing (valueChars v) ++
    (vs.map valueChars).flatMap fun t => separator ++ item opening closing t

theorem listed_ne_nil (opening closing separator : List Char) (v : Json) (vs : List Json) :
    listed opening closing separator v vs ≠ [] := by
  simp [listed, item, Text.Quoted.literal]

theorem readItems_listed (opening closing separator : List Char) (v : Json) (vs : List Json) :
    readItems opening closing separator (listed opening closing separator v vs) =
      if ∀ w ∈ v :: vs, OneLine (valueChars w) then some ((v :: vs).map valueChars) else none := by
  rw [listed, readItems_items, ← List.map_cons]
  simp only [List.forall_mem_map]

theorem literals_type_listed (v : Json) (vs : List Json) :
    (literals (v :: vs)).type.toList = listed [] [] " | ".toList v vs := by
  change (" | ".intercalate (literal v :: vs.map literal)).toList = _
  rw [Codec.intercalate_chars, Codec.following, listed, literal_item, List.flatMap_map,
    List.flatMap_map]
  simp only [literal_item]

theorem literals_codec_listed (v w : Json) (vs : List Json) :
    (literals (v :: w :: vs)).codec.toList =
      "t.union([".toList ++
        (listed "t.literal(".toList [')'] ", ".toList v (w :: vs) ++ "])".toList) := by
  rw [literals_cons_cons]
  change ("t.union([" ++ ", ".intercalate (((v :: w :: vs).map literal).map literalCodec) ++
    "])").toList = _
  rw [String.toList_append, String.toList_append, List.map_map, List.map_cons,
    Codec.intercalate_chars, Codec.following, listed, List.flatMap_map, List.flatMap_map,
    List.append_assoc]
  simp only [Function.comp_apply, literalCodec_item]

theorem typeLiterals_literals (values : List Json) :
    typeLiterals (literals values).type.toList =
      if ∀ v ∈ values, OneLine (valueChars v) then some (values.map valueChars) else none := by
  cases values with
  | nil => rfl
  | cons v vs =>
    rw [typeLiterals, literals_type_listed, if_neg (listed_ne_nil _ _ _ _ _), readItems_listed]

theorem not_union_item (s t : List Char) :
    ¬ "t.union([".toList <+: item "t.literal(".toList [')'] s ++ t := by
  intro h
  have hu : "t.u".toList <+: "t.union([".toList := by decide
  have hl : "t.literal(".toList <+: item "t.literal(".toList [')'] s ++ t :=
    (List.prefix_append _ _).trans (List.prefix_append _ _)
  exact absurd (List.prefix_of_prefix_length_le (hu.trans h) hl (by decide)) (by decide)

theorem codecLiterals_literals (values : List Json) :
    codecLiterals (literals values).codec.toList =
      if ∀ v ∈ values, OneLine (valueChars v) then some (values.map valueChars) else none := by
  match values with
  | [] => rfl
  | [v] =>
    have hc : (literals [v]).codec.toList = item "t.literal(".toList [')'] (valueChars v) ++ [] :=
      (literalCodec_item v).trans (List.append_nil _).symm
    rw [codecLiterals, hc, Text.between?_eq_none (not_union_item _ _), readItem_item]
    simp only [List.forall_mem_singleton, List.map_singleton]
    split <;> rfl
  | v :: w :: vs =>
    rw [codecLiterals, literals_codec_listed, Text.between?_append]
    simp only [if_neg (listed_ne_nil _ _ _ _ _)]
    rw [readItems_listed]

/-- What is written for a text, and for a property that has no identifier for its name, denotes the
text just when it is of one line. The type and the codec of a union list the same texts; they are
those of the values just when no value is a text of more lines than one. -/
theorem quote_denotes_iff (s : String) (values : List Json) :
    (Denotes (quote s).toList s.toList ↔ OneLine s.toList) ∧
      (isIdentifier s.toList = false →
        (Denotes (key s).toList s.toList ↔ OneLine s.toList)) ∧
      typeLiterals (literals values).type.toList = codecLiterals (literals values).codec.toList ∧
      (typeLiterals (literals values).type.toList = some (values.map valueChars) ↔
        ∀ t, .text t ∈ values → OneLine t.toList) := by
  refine ⟨denotes_quote s, denotes_key, ?_, ?_⟩
  · rw [typeLiterals_literals, codecLiterals_literals]
  · have hv : (∀ v ∈ values, OneLine (valueChars v)) ↔
        ∀ t, .text t ∈ values → OneLine t.toList := by
      simp only [valueChars, oneLine_literalText]
      exact ⟨fun h t ht => h _ ht t rfl, fun h v hv t ht => h t (ht ▸ hv)⟩
    rw [typeLiterals_literals, ← hv]
    split <;> simp_all

theorem quote_denotes_backslashes :
    isIdentifier "\\\\'".toList = false ∧
      Denotes (key "\\\\'").toList "\\\\'".toList ∧
      typeLiterals (literals [.text "\\'", .text "' | '", .integer 2]).type.toList =
        some ["\\'".toList, "' | '".toList, ['2']] ∧
      codecLiterals (literals [.text "\\'", .text "' | '", .integer 2]).codec.toList =
        some ["\\'".toList, "' | '".toList, ['2']] := by
  obtain ⟨-, hk, he, ht⟩ := quote_denotes_iff "\\\\'" [.text "\\'", .text "' | '", .integer 2]
  have ht := ht.2 (by simp; decide)
  exact ⟨by decide, (hk (by decide)).2 (by decide), ht, he.symm.trans ht⟩

theorem not_denotes_lineFeed :
    ¬ Denotes (quote "a\nb").toList "a\nb".toList ∧
      ¬ Denotes (key "a\nb").toList "a\nb".toList ∧
      typeLiterals (literals [.text "a\nb"]).type.toList = none ∧
      codecLiterals (literals [.text "a\nb"]).codec.toList = none := by
  refine ⟨fun h => absurd ((denotes_quote _).1 h) (by decide),
    fun h => absurd ((denotes_key (by decide)).1 h) (by decide), ?_, ?_⟩
  · rw [typeLiterals_literals]
    rfl
  · rw [codecLiterals_literals]
    rfl

end Code

end TypedClient
