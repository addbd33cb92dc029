import TypedClient.Proofs.Json.Scalars

set_option autoImplicit false

namespace TypedClient

open Source (Node)

namespace Json

/-- Values without fractions, whose integers 64 bits hold, signed or not. -/
inductive Exact : Json → Prop where
  | null : Exact .null
  | bool (b : Bool) : Exact (.bool b)
  | integer {i : Int} : -2 ^ 63 ≤ i → i < 2 ^ 64 → Exact (.integer i)
  | text (s : String) : Exact (.text s)
  | list {xs : List Json} : (∀ x ∈ xs, Exact x) → Exact (.list xs)
  | record {es : List (String × Json)} : (∀ e ∈ es, Exact e.2) → Exact (.record es)

mutual

def node : Json → Node
  | .null => .scalar .null
  | .bool b => .scalar (.bool b)
  | .integer i => .scalar (.number (.integer i))
  | .float x => .scalar (.number (.float x))
  | .text s => .scalar (.text s)
  | .list xs => .sequence false (nodes xs) .closed
  | .record es => .mapping false (members es) .closed

def nodes : List Json → List Node
  | [] => []
  | x :: xs => node x :: nodes xs

def members : List (String × Json) → List (Node × Node)
  | [] => []
  | (k, x) :: es => (.scalar (.text k), node x) :: members es

end

def chars (x : Json) : List Char := x.compact.toList

def entryChars (e : String × Json) : List Char := (writeText e.1).toList ++ ':' :: e.2.chars

def moreItems (xs : List Json) : List Char := xs.flatMap fun x => ',' :: x.chars

def moreEntries (es : List (String × Json)) : List Char := es.flatMap fun e => ',' :: entryChars e

theorem compactItems_chars (x : Json) (xs : List Json) :
    (compactItems (x :: xs)).toList = x.chars ++ moreItems xs := by
  induction xs generalizing x with
  | nil => simp [compactItems, moreItems, chars]
  | cons y ys ih =>
    rw [compactItems, String.toList_append, String.toList_append, ih]
    simp [moreItems, chars]

theorem compactEntries_chars (e : String × Json) (es : List (String × Json)) :
    (compactEntries (e :: es)).toList = entryChars e ++ moreEntries es := by
  induction es generalizing e with
  | nil => simp [compactEntries, moreEntries, entryChars, chars]
  | cons f fs ih =>
    rw [compactEntries, String.toList_append, String.toList_append, ih]
    simp [moreEntries, entryChars, chars]

theorem list_chars (x : Json) (xs : List Json) :
    (list (x :: xs)).chars = '[' :: (x.chars ++ (moreItems xs ++ [']'])) := by
  rw [chars, compact, String.toList_append, String.toList_append, compactItems_chars]
  simp

theorem record_chars (e : String × Json) (es : List (String × Json)) :
    (record (e :: es)).chars = '\x7b' :: (entryChars e ++ (moreEntries es ++ ['\x7d'])) := by
  rw [chars, compact, String.toList_append, String.toList_append, compactEntries_chars]
  simp

theorem writeText_chars (s : String) :
    (writeText s).toList = '"' :: (s.toList.flatMap escapeChar ++ ['"']) := by
  simp [writeText]

theorem natural_chars (n : Nat) : (integer n).chars = Nat.toDigits 10 n :=
  Nat.toList_repr

theorem negative_chars (n : Nat) :
    (integer (-(n + 1 : Nat))).chars = '-' :: Nat.toDigits 10 (n + 1) := by
  change ("-" ++ Nat.repr (n + 1)).toList = _
  rw [String.toList_append, Nat.toList_repr]
  rfl

def Opens (c : Char) : Prop := Source.JsonText.isBlank c = false ∧ c ≠ ']' ∧ c ≠ '\x7d' ∧ c ≠ ','

instance (c : Char) : Decidable (Opens c) := inferInstanceAs (Decidable (_ ∧ _))

theorem opens_of_isDigit {c : Char} (h : c.isDigit = true) : Opens c := by
  refine ⟨?_, ?_, ?_, ?_⟩
  · cases hb : Source.JsonText.isBlank c with
    | false => rfl
    | true =>
      simp only [Source.JsonText.isBlank, Bool.or_eq_true, beq_iff_eq] at hb
      rcases hb with ((rfl | rfl) | rfl) | rfl <;> exact absurd h (by decide)
  all_goals
    rintro rfl
    exact absurd h (by decide)

theorem digits_opens (n : Nat) :
    ∃ c w, Nat.toDigits 10 n = c :: w ∧ c.isDigit = true := by
  cases hd : Nat.toDigits 10 n with
  | nil => exact absurd hd Nat.toDigits_ne_nil
  | cons c w =>
    have hm : c ∈ Nat.toDigits 10 n := by simp [hd]
    exact ⟨c, w, rfl, Nat.isDigit_of_mem_toDigits (by omega) (by omega) hm⟩

theorem integer_cases {i : Int} (hl : -2 ^ 63 ≤ i) (hu : i < 2 ^ 64) :
    (∃ n : Nat, i = n ∧ n < 2 ^ 64) ∨ ∃ n : Nat, i = -(n + 1 : Nat) ∧ n + 1 ≤ 2 ^ 63 := by
  cases i with
  | ofNat n => exact .inl ⟨n, rfl, Int.ofNat_lt.1 hu⟩
  | negSucc n => exact .inr ⟨n, rfl, by omega⟩

theorem Exact.opens {x : Json} (h : x.Exact) : ∃ c w, x.chars = c :: w ∧ Opens c := by
  cases h with
  | null => exact ⟨'n', ['u', 'l', 'l'], rfl, by decide⟩
  | bool b =>
    cases b with
    | true => exact ⟨'t', ['r', 'u', 'e'], rfl, by decide⟩
    | false => exact ⟨'f', ['a', 'l', 's', 'e'], rfl, by decide⟩
  | integer hl hu =>
    rcases integer_cases hl hu with ⟨n, rfl, _⟩ | ⟨n, rfl, _⟩
    · obtain ⟨c, w, hd, hc⟩ := digits_opens n
      exact ⟨c, w, by rw [natural_chars, hd], opens_of_isDigit hc⟩
    · exact ⟨'-', _, negative_chars n, by decide⟩
  | text s => exact ⟨'"', _, writeText_chars s, by decide⟩
  | @list xs _ =>
    cases xs with
    | nil => exact ⟨'[', [']'], rfl, by decide⟩
    | cons y ys => exact ⟨'[', _, list_chars y ys, by decide⟩
  | @record es _ =>
    cases es with
    | nil => exact ⟨'\x7b', ['\x7d'], rfl, by decide⟩
    | cons e es => exact ⟨'\x7b', _, record_chars e es, by decide⟩

end Json

namespace Source.JsonText

open Json (Exact nodes chars moreItems moreEntries entryChars Opens)

theorem skipBlanks_of_not_blank {c : Char} (h : isBlank c = false) (t : List Char) :
    skipBlanks (c :: t) = c :: t := by
  simp [skipBlanks, h]

theorem value_digit {c : Char} (h : c.isDigit = true) (fuel : Nat) (t : List Char) :
    value (fuel + 1) (c :: t) = number false (c :: t) := by
  rw [value, skipBlanks_of_not_blank (Json.opens_of_isDigit h).1]
  split <;> simp_all

/-- The value is read whatever follows it that does not go on with a number. -/
def Reads (x : Json) : Prop :=
  ∀ (fuel : Nat) (t : List Char), 3 * x.chars.length ≤ fuel → Ends t →
    value fuel (x.chars ++ t) = (x.node, some t)

theorem ends_moreItems (xs : List Json) (t : List Char) : Ends (moreItems xs ++ ']' :: t) := by
  cases xs <;> simp [moreItems, Ends]

theorem ends_moreEntries (es : List (String × Json)) (t : List Char) :
    Ends (moreEntries es ++ '\x7d' :: t) := by
  cases es <;> simp [moreEntries, Ends]

theorem item_reads {x : Json} (hx : Reads x) {fuel : Nat} {t : List Char}
    (h : 3 * x.chars.length ≤ fuel) (ht : Ends t) :
    item (fuel + 1) (x.chars ++ t) =
      (x.node :: (items fuel false t).1, (items fuel false t).2) := by
  rw [item, hx fuel t h ht]

theorem items_comma (fuel : Nat) (t : List Char) :
    items (fuel + 1) false (',' :: t) = item fuel t := by
  rw [items, skipBlanks_of_not_blank (by decide)]
  rfl

theorem items_close (fuel : Nat) (first : Bool) (t : List Char) :
    items (fuel + 1) first (']' :: t) = ([], .closed, some t) := by
  rw [items, skipBlanks_of_not_blank (by decide)]
  rfl

theorem items_open {c : Char} (h : Opens c) (fuel : Nat) (t : List Char) :
    items (fuel + 1) true (c :: t) = item fuel (c :: t) := by
  rw [items, skipBlanks_of_not_blank h.1]
  split <;> simp_all [Opens]

theorem items_more {xs : List Json} (hx : ∀ x ∈ xs, Reads x) {fuel : Nat} {t : List Char}
    (h : 3 * (moreItems xs).length + 1 ≤ fuel) :
    items fuel false (moreItems xs ++ ']' :: t) = (nodes xs, .closed, some t) := by
  induction xs generalizing fuel with
  | nil =>
    cases fuel with
    | zero => omega
    | succ fuel => exact items_close fuel false t
  | cons x xs ih =>
    have hm : moreItems (x :: xs) = ',' :: (x.chars ++ moreItems xs) := by simp [moreItems]
    rw [hm, List.length_cons, List.length_append] at h
    match fuel, h with
    | fuel + 2, h =>
      rw [hm, List.cons_append, List.append_assoc, items_comma,
        item_reads (hx x List.mem_cons_self) (by omega) (ends_moreItems xs t),
        ih (fun y hy => hx y (List.mem_cons_of_mem x hy)) (by omega)]
      rfl

theorem reads_list {xs : List Json} (he : ∀ x ∈ xs, x.Exact) (hx : ∀ x ∈ xs, Reads x) :
    Reads (.list xs) := by
  intro fuel t h ht
  cases xs with
  | nil =>
    match fuel, h with
    | fuel + 2, h =>
      change value (fuel + 2) ('[' :: ']' :: t) = _
      rw [value, skipBlanks_of_not_blank (by decide)]
      simp only [items_close]
      rfl
    | 0, h | 1, h => exact absurd h (by decide)
  | cons x xs =>
    obtain ⟨c, w, hc, ho⟩ := (he x List.mem_cons_self).opens
    rw [Json.list_chars] at h ⊢
    simp only [List.length_cons, List.length_append] at h
    match fuel, h with
    | fuel + 3, h =>
      rw [List.cons_append, value, skipBlanks_of_not_blank (by decide)]
      -- The first item follows the bracket at once; before each other one there is a comma.
      have hi := items_open ho (fuel + 1) (w ++ (moreItems xs ++ ']' :: t))
      rw [← List.cons_append, ← hc,
        item_reads (hx x List.mem_cons_self) (by omega) (ends_moreItems xs t),
        items_more (fun y hy => hx y (List.mem_cons_of_mem x hy)) (by omega)] at hi
      simp only [List.append_assoc, List.cons_append, List.nil_append, hi]
      rfl

theorem member_reads {e : String × Json} (hx : Reads e.2) {fuel : Nat} {t : List Char}
    (h : 3 * (entryChars e).length ≤ fuel) (ht : Ends t) :
    member (fuel + 1) (entryChars e ++ t) =
      ((.scalar (.text e.1), e.2.node) :: (JsonText.members fuel false t).1,
        (JsonText.members fuel false t).2) := by
  rw [entryChars, Json.writeText_chars] at h ⊢
  simp only [List.length_cons, List.length_append] at h
  simp only [List.cons_append, List.append_assoc, List.nil_append]
  rw [member, string_text]
  simp only [skipBlanks_of_not_blank (c := ':') (by decide), hx fuel t (by omega) ht]

theorem members_comma (fuel : Nat) (t : List Char) :
    JsonText.members (fuel + 1) false (',' :: '"' :: t) = member fuel ('"' :: t) := by
  rw [JsonText.members, skipBlanks_of_not_blank (by decide)]
  simp only [skipBlanks_of_not_blank (c := '"') (by decide)]
  rfl

theorem members_close (fuel : Nat) (first : Bool) (t : List Char) :
    JsonText.members (fuel + 1) first ('\x7d' :: t) = ([], .closed, some t) := by
  rw [JsonText.members, skipBlanks_of_not_blank (by decide)]
  rfl

theorem members_open (fuel : Nat) (t : List Char) :
    JsonText.members (fuel + 1) true ('"' :: t) = member fuel ('"' :: t) := by
  rw [JsonText.members, skipBlanks_of_not_blank (by decide)]
  rfl

theorem entryChars_quote (e : String × Json) : ∃ w, entryChars e = '"' :: w := by
  rw [entryChars, Json.writeText_chars]
  exact ⟨_, rfl⟩

theorem members_more {es : List (String × Json)} (hx : ∀ e ∈ es, Reads e.2) {fuel : Nat}
    {t : List Char} (h : 3 * (moreEntries es).length + 1 ≤ fuel) :
    JsonText.members fuel false (moreEntries es ++ '\x7d' :: t) =
      (Json.members es, .closed, some t) := by
  induction es generalizing fuel with
  | nil =>
    cases fuel with
    | zero => omega
    | succ fuel => exact members_close fuel false t
  | cons e es ih =>
    have hm : moreEntries (e :: es) = ',' :: (entryChars e ++ moreEntries es) := by
      simp [moreEntries]
    rw [hm, List.length_cons, List.length_append] at h
    obtain ⟨w, hw⟩ := entryChars_quote e
    match fuel, h with
    | fuel + 2, h =>
      rw [hm, List.cons_append, List.append_assoc, hw, List.cons_append, members_comma,
        ← List.cons_append, ← hw,
        member_reads (hx e List.mem_cons_self) (by omega) (ends_moreEntries es t),
        ih (fun f hf => hx f (List.mem_cons_of_mem e hf)) (by omega)]
      rfl

theorem reads_record {es : List (String × Json)} (hx : ∀ e ∈ es, Reads e.2) :
    Reads (.record es) := by
  intro fuel t h ht
  cases es with
  | nil =>
    match fuel, h with
    | fuel + 2, h =>
      change value (fuel + 2) ('\x7b' :: '\x7d' :: t) = _
      rw [value, skipBlanks_of_not_blank (by decide)]
      simp only [members_close]
      rfl
    | 0, h | 1, h => exact absurd h (by decide)
  | cons e es =>
    obtain ⟨w, hw⟩ := entryChars_quote e
    rw [Json.record_chars] at h ⊢
    simp only [List.length_cons, List.length_append] at h
    match fuel, h with
    | fuel + 3, h =>
      rw [List.cons_append, value, skipBlanks_of_not_blank (by decide)]
      have hm := members_open (fuel + 1) (w ++ (moreEntries es ++ '\x7d' :: t))
      rw [← List.cons_append, ← hw,
        member_reads (hx e List.mem_cons_self) (by omega) (ends_moreEntries es t),
        members_more (fun f hf => hx f (List.mem_cons_of_mem e hf)) (by omega)] at hm
      simp only [List.append_assoc, List.cons_append, List.nil_append, hm]
      rfl

theorem reads_integer {i : Int} (hl : -2 ^ 63 ≤ i) (hu : i < 2 ^ 64) : Reads (.integer i) := by
  intro fuel t h ht
  rcases Json.integer_cases hl hu with ⟨n, rfl, hn⟩ | ⟨n, rfl, hn⟩
  · obtain ⟨c, w, hd, hc⟩ := Json.digits_opens n
    rw [Json.natural_chars] at h ⊢
    match fuel, h with
    | fuel + 1, h =>
      rw [hd, List.cons_append, value_digit hc, ← List.cons_append, ← hd, number_natural hn ht]
      rfl
    | 0, h => simp [hd] at h
  · rw [Json.negative_chars] at h ⊢
    match fuel, h with
    | fuel + 1, h =>
      rw [List.cons_append, value, skipBlanks_of_not_blank (by decide)]
      exact number_negative (by omega) hn ht
    | 0, h => simp at h

theorem reads_text (s : String) : Reads (.text s) := by
  intro fuel t h _
  change 3 * (Json.writeText s).toList.length ≤ fuel at h
  change value fuel ((Json.writeText s).toList ++ t) = _
  rw [Json.writeText_chars] at h ⊢
  match fuel, h with
  | fuel + 1, h =>
    rw [List.cons_append, value, skipBlanks_of_not_blank (by decide)]
    simp only [List.append_assoc, List.cons_append, List.nil_append, string_text]
    rfl
  | 0, h => simp at h

theorem reads_of_exact {x : Json} (h : x.Exact) : Reads x := by
  induction h with
  | null =>
    intro fuel t h _
    match fuel, h with
    | fuel + 1, h => rfl
    | 0, h => exact absurd h (by decide)
  | bool b =>
    intro fuel t h _
    cases b <;> match fuel, h with
    | fuel + 1, h => rfl
    | 0, h => exact absurd h (by decide)
  | integer hl hu => exact reads_integer hl hu
  | text s => exact reads_text s
  | list hx ih => exact reads_list hx ih
  | record _ ih => exact reads_record ih

/-- The tree of a value is all that its text holds. -/
theorem document_compact {x : Json} (h : x.Exact) : document x.compact = (x.node, false) := by
  have hv := reads_of_exact h (3 * x.chars.length + 3) [] (by omega) trivial
  rw [List.append_nil] at hv
  unfold document
  change value (3 * x.compact.toList.length + 3) x.compact.toList = _ at hv
  simp only [hv]
  rfl

end Source.JsonText

end TypedClient
