import TypedClient.Proofs.Codec.Compiled
import TypedClient.Proofs.Text.Quoted

/-!
An expression can be read back from its type and its codec together, whatever follows either of
them. The codec alone says what a thing is, but for a reference, whose name may be any text; there
the type tells where the name ends.
-/

set_option autoImplicit false

namespace TypedClient.Code

open Api (Schema)

namespace Codec

inductive Kind where
  | string
  | boolean
  | number
  | unknown
  | date
  | literal
  | union
  | array
  | dictionary
  | record
  | option
  | recursion
  deriving DecidableEq

namespace Kind

def keyword : Kind → List Char
  | string => "t.string".toList
  | boolean => "t.boolean".toList
  | number => "t.number".toList
  | unknown => "t.unknown".toList
  | date => "DateFromISOString".toList
  | literal => "t.literal".toList
  | union => "t.union".toList
  | array => "t.array".toList
  | dictionary => "t.dictionary".toList
  | record => "t.type".toList
  | option => "createOptionFromNullable".toList
  | recursion => "t.recursion".toList

def opening : Kind → Char
  | string => 's'
  | boolean => 'b'
  | number => 'n'
  | unknown => 'u'
  | date => 'D'
  | literal => '\''
  | union => '\''
  | array => 'A'
  | dictionary => '\x7b'
  | record => '\x7b'
  | option => 'O'
  | recursion => '\x7b'

theorem eq_of_begins {k k' : Kind} (h : k.keyword <+: k'.keyword) : k = k' := by
  revert h
  cases k <;> cases k' <;> decide

/-- No keyword begins another, so what follows does not matter. -/
theorem keyword_read {k k' : Kind} {t t' : List Char} (h : k.keyword ++ t = k'.keyword ++ t') :
    k = k' := by
  rcases List.prefix_or_prefix_of_prefix (List.prefix_append k.keyword t)
    (h ▸ List.prefix_append k'.keyword t') with hp | hp
  · exact eq_of_begins hp
  · exact (eq_of_begins hp).symm

/-- A codec and its type begin with different letters, but for a date, and no codec begins as the
ending of a codec name does. -/
theorem keyword_opening (k : Kind) :
    k = date ∨ ∃ c w, k.keyword = c :: w ∧ c ≠ k.opening ∧ c ≠ 'I' := by
  cases k <;> first
    | exact .inl rfl
    | exact .inr ⟨_, _, rfl, by decide, by decide⟩

end Kind

/-- A reference is of no kind: its codec begins with its name. -/
def kind? : Codec → Option Kind
  | .string => some .string
  | .boolean => some .boolean
  | .number => some .number
  | .unknown => some .unknown
  | .date => some .date
  | .reference _ => none
  | .literal _ => some .literal
  | .union _ => some .union
  | .array _ => some .array
  | .dictionary _ => some .dictionary
  | .record _ => some .record
  | .option _ => some .option
  | .recursion _ _ => some .recursion

/-- The expressions that schemas are compiled to: a union has literals only, and what is tied to the
definition `root` is a record. -/
inductive Regular (root : String) : Codec → Prop where
  | string : Regular root .string
  | boolean : Regular root .boolean
  | number : Regular root .number
  | unknown : Regular root .unknown
  | date : Regular root .date
  | reference (name : String) : Regular root (.reference name)
  | literal (v : String) : Regular root (.literal v)
  | union (v : String) (vs : List String) : Regular root (.union (.literal v :: vs.map .literal))
  | array {c : Codec} : Regular root c → Regular root (.array c)
  | dictionary {c : Codec} : Regular root c → Regular root (.dictionary c)
  | record {fs : List (String × Codec)} :
    (∀ f ∈ fs, Regular root f.2) → Regular root (.record fs)
  | option {c : Codec} : Regular root c → Regular root (.option c)
  | recursion {fs : List (String × Codec)} :
    (∀ f ∈ fs, Regular root f.2) → Regular root (.recursion root (.record fs))

theorem regular_ofValues (root : String) (v : Json) (vs : List Json) :
    Regular root (ofValues (v :: vs)) := by
  cases vs with
  | nil => exact .literal _
  | cons w vs =>
    have h : Regular root _ := .union (literalText v) ((w :: vs).map literalText)
    rw [List.map_map] at h
    exact h

theorem regular_ofField {root : String} (required : Option (List String)) (name : String)
    {c : Codec} (h : Regular root c) : Regular root (ofField required name c).2 := by
  unfold ofField
  split
  · exact h
  · exact .option h

theorem regular_ofSchema (root : String) (x : Schema) : Regular root (ofSchema root x) := by
  induction x using Schema.compileInduction with
  | reference path => exact .reference _
  | string format values =>
    rw [ofSchema, ofString]
    cases values.getD [] with
    | nil =>
      by_cases h : format = some "date-time" <;> simp only [h, if_true, if_false]
      · exact .date
      · exact .string
    | cons v vs => exact regular_ofValues root v vs
  | boolean => exact .boolean
  | integer format => exact .number
  | number format => exact .number
  | array items ih => exact .array ih
  | dictionary ps required v ih => exact .dictionary ih
  | anything ps required => exact .dictionary .unknown
  | bare x h =>
    rw [ofSchema_of_bare _ h]
    exact .record fun f hf => absurd hf List.not_mem_nil
  | object x ps required h ih =>
    have hfs : ∀ f ∈ ofProperties root required ps, Regular root f.2 := by
      rw [ofProperties_eq]
      intro f hf
      obtain ⟨e, he, rfl⟩ := List.mem_map.1 hf
      exact regular_ofField required e.1 (ih e he)
    rw [ofSchema_of_fields _ h, ofFields]
    split
    · exact .recursion hfs
    · exact .record hfs

def typed (c : Codec) : List Char := c.static.text.toList

def coded (c : Codec) : List Char := c.text.toList

def given (argument : List Char) : List Char := '(' :: (argument ++ [')'])

def tie (root : String) : List Char :=
  ("'" ++ codecName root ++ "', " ++ codecName root ++ " => ").toList

def rest : Codec → List Char
  | .literal v => given (Text.Quoted.quote v).toList
  | .union cs => given ('[' :: ((", ".intercalate (texts cs)).toList ++ [']']))
  | .array c => given c.coded
  | .dictionary c => given ("t.string, ".toList ++ c.coded)
  | .record fs => given (braced (fieldTexts fs) ", ").toList
  | .option c => given c.coded
  | .recursion root c => '<' :: (root.toList ++ '>' :: given (tie root ++ c.coded))
  | _ => []

theorem given_append (argument t : List Char) :
    given argument ++ t = '(' :: (argument ++ ')' :: t) := by
  simp [given]

theorem call_chars (function argument : String) :
    (call function argument).toList = function.toList ++ given argument.toList := by
  simp [call, given]

theorem applied_chars (type argument : String) :
    (applied type argument).toList = type.toList ++ '<' :: (argument.toList ++ ['>']) := by
  simp [applied]

theorem coded_eq {c : Codec} {k : Kind} (h : c.kind? = some k) : c.coded = k.keyword ++ c.rest := by
  cases c with
  | reference name => cases h
  | literal v =>
    cases h
    exact call_chars _ _
  | union cs =>
    cases h
    refine (call_chars _ _).trans ?_
    rw [String.toList_append, String.toList_append]
    rfl
  | array c =>
    cases h
    exact call_chars _ _
  | dictionary c =>
    cases h
    refine (call_chars _ _).trans ?_
    rw [String.toList_append]
    rfl
  | record fs =>
    cases h
    exact call_chars _ _
  | option c =>
    cases h
    exact call_chars _ _
  | recursion root c =>
    cases h
    refine (call_chars _ _).trans ?_
    rw [applied_chars, String.toList_append]
    simp only [List.append_assoc, List.cons_append, List.nil_append]
    rfl
  | _ =>
    cases h
    exact (List.append_nil _).symm

def following (separator : String) (ts : List String) : List Char :=
  ts.flatMap fun t => separator.toList ++ t.toList

theorem following_cons (separator t : String) (ts : List String) :
    following separator (t :: ts) = separator.toList ++ (t.toList ++ following separator ts) := by
  simp [following]

theorem intercalate_chars (separator t : String) (ts : List String) :
    (separator.intercalate (t :: ts)).toList = t.toList ++ following separator ts := by
  induction ts generalizing t with
  | nil => simp [following]
  | cons u ts ih =>
    rw [String.intercalate_cons_cons, String.toList_append, String.toList_append, ih]
    simp [following, List.append_assoc]

theorem braced_chars (separator t : String) (ts : List String) :
    (braced (t :: ts) separator).toList =
      '\x7b' :: ' ' :: (t.toList ++ (following separator ts ++ [' ', '\x7d'])) := by
  change ("\x7b " ++ separator.intercalate (t :: ts) ++ " \x7d").toList = _
  rw [String.toList_append, String.toList_append, intercalate_chars]
  simp

theorem labelled_chars (key value : String) :
    (labelled key value).toList = (Text.Quoted.key key).toList ++ ':' :: ' ' :: value.toList := by
  simp [labelled]

def typeLabel (f : String × Codec) : String := labelled f.1 f.2.static.text

def codeLabel (f : String × Codec) : String := labelled f.1 f.2.text

theorem record_typed (fs : List (String × Codec)) :
    (record fs).typed = (braced (fs.map typeLabel) "; ").toList := by
  change (braced (StaticType.fieldTexts (staticFields fs)) "; ").toList = _
  rw [staticFields_eq, StaticType.fieldTexts_eq, List.map_map]
  rfl

theorem record_rest (fs : List (String × Codec)) :
    (record fs).rest = given (braced (fs.map codeLabel) ", ").toList := by
  change given (braced (fieldTexts fs) ", ").toList = _
  rw [fieldTexts_eq]
  rfl

theorem union_typed (v : String) (vs : List String) :
    (union (literal v :: vs.map literal)).typed =
      (Text.Quoted.quote v).toList ++ following " | " (vs.map Text.Quoted.quote) := by
  change (" | ".intercalate (StaticType.texts (statics _))).toList = _
  rw [statics_eq, StaticType.texts_eq, List.map_cons, List.map_cons, intercalate_chars,
    List.map_map, List.map_map]
  rfl

theorem dictionary_rest (c : Codec) :
    (dictionary c).rest = given ("t.string, ".toList ++ c.coded) := rfl

theorem recursion_rest (root : String) (c : Codec) :
    (recursion root c).rest =
      ('<' :: (root.toList ++ '>' :: '(' :: tie root)) ++ (c.coded ++ [')']) := by
  change '<' :: (root.toList ++ '>' :: given (tie root ++ c.coded)) = _
  simp only [given, List.append_assoc, List.cons_append]

theorem union_rest (v : String) (vs : List String) :
    (union (literal v :: vs.map literal)).rest =
      given ('[' :: ((literal v).coded ++
        (following ", " (vs.map fun v => (literal v).text) ++ [']']))) := by
  change given ('[' :: ((", ".intercalate (texts _)).toList ++ [']'])) = _
  rw [texts_eq, List.map_cons, intercalate_chars, List.map_map, List.append_assoc]
  rfl

theorem array_typed (c : Codec) : (array c).typed = "Array".toList ++ '<' :: (c.typed ++ ['>']) :=
  applied_chars _ _

theorem option_typed (c : Codec) :
    (option c).typed = "Option".toList ++ '<' :: (c.typed ++ ['>']) :=
  applied_chars _ _

theorem dictionary_typed (c : Codec) :
    (dictionary c).typed =
      '\x7b' :: ' ' :: ("[key: string]: ".toList ++ (c.typed ++ [' ', '\x7d'])) := by
  refine (braced_chars _ _ _).trans ?_
  rw [String.toList_append, List.append_assoc]
  rfl

def Closes : List Char → Prop
  | [] => True
  | c :: _ => c = '>' ∨ c = ' ' ∨ c = ';'

theorem closes_angle (t : List Char) : Closes ('>' :: t) := .inl rfl

theorem closes_space (t : List Char) : Closes (' ' :: t) := .inr (.inl rfl)

theorem record_opening (fs : List (String × Codec)) : ∃ w, (record fs).typed = '\x7b' :: w := by
  rw [record_typed]
  cases fs with
  | nil => exact ⟨_, rfl⟩
  | cons f fs => exact ⟨_, braced_chars _ _ _⟩

theorem typed_opening {root : String} {c : Codec} {k : Kind} (hr : Regular root c)
    (h : c.kind? = some k) : ∃ w, c.typed = k.opening :: w := by
  cases hr with
  | reference name => cases h
  | literal v => cases h; exact ⟨_, String.toList_ofList⟩
  | union v vs =>
    cases h
    rw [union_typed, Text.Quoted.quote, String.toList_ofList]
    exact ⟨_, rfl⟩
  | array _ => cases h; exact ⟨_, array_typed _⟩
  | dictionary _ => cases h; exact ⟨_, dictionary_typed _⟩
  | record _ => cases h; exact record_opening _
  | option _ => cases h; exact ⟨_, option_typed _⟩
  | recursion _ => cases h; exact record_opening _
  | _ => cases h; exact ⟨_, rfl⟩

theorem reference_coded (n : String) : (reference n).coded = n.toList ++ ['I', 'O'] :=
  String.toList_append

/-- Of two names the shorter cannot go on in the codec when the type ends after it. -/
theorem name_ends {m m' t t' u u' : List Char} (ht : Closes t) (hT : m ++ t = m' ++ t')
    (hC : m ++ ['I', 'O'] ++ u = m' ++ ['I', 'O'] ++ u') (hp : m <+: m') : m = m' := by
  obtain ⟨x, rfl⟩ := hp
  cases x with
  | nil => exact (List.append_nil m).symm
  | cons c x =>
    rw [List.append_assoc, List.append_cancel_left_eq] at hT
    simp only [List.append_assoc, List.append_cancel_left_eq] at hC
    rw [hT, ← (List.cons.inj hC).1] at ht
    simp [Closes] at ht

theorem reference_read {n n' : String} {t t' u u' : List Char} (ht : Closes t) (ht' : Closes t')
    (hT : n.toList ++ t = n'.toList ++ t')
    (hC : n.toList ++ ['I', 'O'] ++ u = n'.toList ++ ['I', 'O'] ++ u') : n = n' := by
  rcases List.prefix_or_prefix_of_prefix (List.prefix_append n.toList t)
    (hT ▸ List.prefix_append n'.toList t') with hp | hp
  · exact String.toList_inj.1 (name_ends ht hT hC hp)
  · exact (String.toList_inj.1 (name_ends ht' hT.symm hC.symm hp)).symm

theorem date_apart {n t t' u u' : List Char} (ht : Closes t') (hT : n ++ t = "Date".toList ++ t')
    (hC : n ++ ['I', 'O'] ++ u = "DateFromISOString".toList ++ u') : False := by
  rcases n with _ | ⟨a, _ | ⟨b, _ | ⟨c, _ | ⟨d, _ | ⟨e, n⟩⟩⟩⟩⟩ <;>
    simp only [String.reduceToList, List.cons_append, List.nil_append, List.cons.injEq] at hT hC
  · exact absurd hC.1 (by decide)
  · exact absurd hC.2.1 (by decide)
  · exact absurd hC.2.2.1 (by decide)
  · exact absurd hC.2.2.2.1 (by decide)
  · exact absurd hC.2.2.2.2.1 (by decide)
  · rw [← hT.2.2.2.2, hC.2.2.2.2.1] at ht
    simp [Closes] at ht

/-- A reference is told from all else by where its type and its codec begin to differ. -/
theorem reference_apart {root n : String} {c : Codec} (hr : Regular root c) {k : Kind}
    (hk : c.kind? = some k) {t t' u u' : List Char} (ht : Closes t')
    (hT : (reference n).typed ++ t = c.typed ++ t')
    (hC : (reference n).coded ++ u = c.coded ++ u') : False := by
  obtain ⟨w, hw⟩ := typed_opening hr hk
  rw [coded_eq hk, reference_coded] at hC
  change n.toList ++ t = _ at hT
  -- A name would begin as the type does and as the codec does; only those of a date agree there.
  rcases k.keyword_opening with rfl | ⟨a, v, ha, hne, hI⟩
  · cases hr <;> cases hk
    exact date_apart ht hT hC
  · rw [hw] at hT
    rw [ha] at hC
    cases hn : n.toList with
    | nil =>
      rw [hn] at hC
      exact hI (List.cons.inj hC).1.symm
    | cons b m =>
      rw [hn] at hT hC
      exact hne ((List.cons.inj hC).1.symm.trans (List.cons.inj hT).1)

/-- Two expressions that are read from one place are of one kind. -/
theorem kind_read {root : String} {c c' : Codec} (hr : Regular root c) (hr' : Regular root c')
    {t t' u u' : List Char} (ht : Closes t) (ht' : Closes t') (hT : c.typed ++ t = c'.typed ++ t')
    (hC : c.coded ++ u = c'.coded ++ u') : c.kind? = c'.kind? := by
  cases hk : c.kind? with
  | none =>
    cases hk' : c'.kind? with
    | none => rfl
    | some k' =>
      cases c with
      | reference n => exact (reference_apart hr' hk' ht' hT hC).elim
      | _ => cases hk
  | some k =>
    cases hk' : c'.kind? with
    | none =>
      cases c' with
      | reference n => exact (reference_apart hr hk ht hT.symm hC.symm).elim
      | _ => cases hk'
    | some k' =>
      rw [coded_eq hk, coded_eq hk', List.append_assoc, List.append_assoc] at hC
      rw [Kind.keyword_read hC]

/-- Whatever follows the type and the codec of `c`, they are those of `c` only. -/
def Readable (root : String) (c : Codec) : Prop :=
  ∀ ⦃c' : Codec⦄ ⦃t t' u u' : List Char⦄, Regular root c' → Closes t → Closes t' →
    c.typed ++ t = c'.typed ++ t' → c.coded ++ u = c'.coded ++ u' → c = c' ∧ t = t' ∧ u = u'

theorem readable_of_eq {root : String} {c : Codec}
    (h : ∀ {c' : Codec} {t t' u u' : List Char}, Regular root c' → c.kind? = c'.kind? →
      Closes t → Closes t' → c.typed ++ t = c'.typed ++ t' → c.coded ++ u = c'.coded ++ u' →
      c = c') (hr : Regular root c) : Readable root c := by
  intro c' t t' u u' hr' ht ht' hT hC
  have hc := h hr' (kind_read hr hr' ht ht' hT hC) ht ht' hT hC
  rw [← hc] at hT hC
  exact ⟨hc, List.append_cancel_left hT, List.append_cancel_left hC⟩

theorem literal_read {v v' : String} {u u' : List Char}
    (h : (literal v).coded ++ u = (literal v').coded ++ u') : v = v' ∧ u = u' := by
  rw [coded_eq rfl, coded_eq rfl, List.append_assoc, List.append_assoc] at h
  have h := List.append_cancel_left h
  rw [rest, rest, given_append, given_append] at h
  obtain ⟨hv, hu⟩ := Text.Quoted.quote_read (List.cons.inj h).2
  exact ⟨hv, (List.cons.inj hu).2⟩

theorem literals_read {vs vs' : List String} {u u' : List Char}
    (h : following ", " (vs.map fun v => (literal v).text) ++ ']' :: u =
      following ", " (vs'.map fun v => (literal v).text) ++ ']' :: u') : vs = vs' := by
  induction vs generalizing vs' with
  | nil =>
    cases vs' with
    | nil => rfl
    | cons v' vs' =>
      rw [List.map_cons, following_cons] at h
      exact absurd (List.cons.inj h).1 (by decide)
  | cons v vs ih =>
    cases vs' with
    | nil =>
      rw [List.map_cons, following_cons] at h
      exact absurd (List.cons.inj h).1 (by decide)
    | cons v' vs' =>
      simp only [List.map_cons, following_cons, List.append_assoc] at h
      obtain ⟨hv, h⟩ := literal_read (List.append_cancel_left h)
      rw [hv, ih h]

theorem field_read {root : String} {f g : String × Codec} {t t' u u' : List Char}
    (hr : Readable root f.2) (hr' : Regular root g.2) (ht : Closes t) (ht' : Closes t')
    (hT : (typeLabel f).toList ++ t = (typeLabel g).toList ++ t')
    (hC : (codeLabel f).toList ++ u = (codeLabel g).toList ++ u') : f = g ∧ t = t' ∧ u = u' := by
  rw [typeLabel, typeLabel, labelled_chars, labelled_chars, List.append_assoc,
    List.append_assoc] at hT
  rw [codeLabel, codeLabel, labelled_chars, labelled_chars, List.append_assoc,
    List.append_assoc] at hC
  obtain ⟨hk, hT⟩ := Text.Quoted.key_read hT
  obtain ⟨_, hC⟩ := Text.Quoted.key_read hC
  obtain ⟨hc, ht, hu⟩ := hr hr' ht ht' (List.cons.inj hT).2 (List.cons.inj hC).2
  exact ⟨Prod.ext hk hc, ht, hu⟩

theorem closes_following (ts : List String) (t : List Char) :
    Closes (following "; " ts ++ ' ' :: t) := by
  cases ts with
  | nil => exact closes_space t
  | cons u ts =>
    rw [following_cons]
    exact .inr (.inr rfl)

theorem fields_read {root : String} {fs gs : List (String × Codec)} {t t' u u' : List Char}
    (hr : ∀ f ∈ fs, Readable root f.2) (hr' : ∀ g ∈ gs, Regular root g.2)
    (hT : following "; " (fs.map typeLabel) ++ ' ' :: t =
      following "; " (gs.map typeLabel) ++ ' ' :: t')
    (hC : following ", " (fs.map codeLabel) ++ u = following ", " (gs.map codeLabel) ++ u') :
    fs = gs := by
  induction fs generalizing gs with
  | nil =>
    cases gs with
    | nil => rfl
    | cons g gs =>
      rw [List.map_cons, following_cons] at hT
      exact absurd (List.cons.inj hT).1 (by decide)
  | cons f fs ih =>
    cases gs with
    | nil =>
      rw [List.map_cons, following_cons] at hT
      exact absurd (List.cons.inj hT).1 (by decide)
    | cons g gs =>
      simp only [List.map_cons, following_cons, List.append_assoc] at hT hC
      obtain ⟨hf, hT, hC⟩ := field_read (hr f List.mem_cons_self) (hr' g List.mem_cons_self)
        (closes_following _ _) (closes_following _ _) (List.append_cancel_left hT)
        (List.append_cancel_left hC)
      rw [hf, ih (fun e he => hr e (List.mem_cons_of_mem f he))
        (fun e he => hr' e (List.mem_cons_of_mem g he)) hT hC]

theorem record_read {root : String} {fs gs : List (String × Codec)} {t t' u u' : List Char}
    (hr : ∀ f ∈ fs, Readable root f.2) (hr' : ∀ g ∈ gs, Regular root g.2)
    (hT : (record fs).typed ++ t = (record gs).typed ++ t')
    (hC : (record fs).coded ++ u = (record gs).coded ++ u') : fs = gs := by
  rw [coded_eq rfl, coded_eq rfl, List.append_assoc, List.append_assoc, record_rest,
    record_rest, given_append, given_append] at hC
  rw [record_typed, record_typed] at hT
  have hC := (List.cons.inj (List.append_cancel_left hC)).2
  cases fs with
  | nil =>
    cases gs with
    | nil => rfl
    | cons g gs =>
      rw [List.map_cons, braced_chars] at hT
      exact absurd (List.cons.inj (List.cons.inj hT).2).1 (by decide)
  | cons f fs =>
    cases gs with
    | nil =>
      rw [List.map_cons, braced_chars] at hT
      exact absurd (List.cons.inj (List.cons.inj hT).2).1 (by decide)
    | cons g gs =>
      simp only [List.map_cons, braced_chars, List.append_assoc, List.cons_append] at hT hC
      obtain ⟨hf, hT, hC⟩ := field_read (hr f List.mem_cons_self) (hr' g List.mem_cons_self)
        (closes_following _ _) (closes_following _ _) (List.cons.inj (List.cons.inj hT).2).2
        (List.cons.inj (List.cons.inj hC).2).2
      rw [hf, fields_read (fun e he => hr e (List.mem_cons_of_mem f he))
        (fun e he => hr' e (List.mem_cons_of_mem g he)) hT hC]

theorem readable_of_kind {root : String} {c : Codec} (h : ∀ c' : Codec, c.kind? = c'.kind? → c = c')
    (hr : Regular root c) : Readable root c :=
  readable_of_eq (fun {c'} _ _ _ _ _ hk _ _ _ _ => h c' hk) hr

theorem Regular.readable {root : String} {c : Codec} (hr : Regular root c) : Readable root c := by
  -- The kind is known from `kind_read`, so each case compares expressions of its own kind only.
  induction hr with
  | string => exact readable_of_kind (fun c' hk => by cases c' <;> cases hk; rfl) .string
  | boolean => exact readable_of_kind (fun c' hk => by cases c' <;> cases hk; rfl) .boolean
  | number => exact readable_of_kind (fun c' hk => by cases c' <;> cases hk; rfl) .number
  | unknown => exact readable_of_kind (fun c' hk => by cases c' <;> cases hk; rfl) .unknown
  | date => exact readable_of_kind (fun c' hk => by cases c' <;> cases hk; rfl) .date
  | reference n =>
    refine readable_of_eq (fun hr' hk ht ht' hT hC => ?_) (.reference n)
    cases hr' <;> cases hk
    rw [reference_coded, reference_coded] at hC
    exact congrArg _ (reference_read ht ht' hT hC)
  | literal v =>
    refine readable_of_eq (fun hr' hk _ _ _ hC => ?_) (.literal v)
    cases hr' <;> cases hk
    rw [(literal_read hC).1]
  | union v vs =>
    refine readable_of_eq (fun hr' hk _ _ _ hC => ?_) (.union v vs)
    cases hr' <;> cases hk
    rw [coded_eq rfl, coded_eq rfl, List.append_assoc, List.append_assoc, union_rest, union_rest,
      given_append, given_append] at hC
    have hC := (List.cons.inj (List.append_cancel_left hC)).2
    simp only [List.cons_append, List.append_assoc] at hC
    obtain ⟨hv, hC⟩ := literal_read (List.cons.inj hC).2
    rw [hv, literals_read hC]
  | array hc ih =>
    refine readable_of_eq (fun hr' hk _ _ hT hC => ?_) (.array hc)
    cases hr' <;> cases hk
    rw [array_typed, array_typed] at hT
    rw [coded_eq rfl, coded_eq rfl, rest, rest, given, given] at hC
    simp only [List.append_assoc, List.cons_append, List.nil_append, List.append_cancel_left_eq,
      List.cons.injEq, true_and] at hT hC
    rw [(ih ‹_› (closes_angle _) (closes_angle _) hT hC).1]
  | option hc ih =>
    refine readable_of_eq (fun hr' hk _ _ hT hC => ?_) (.option hc)
    cases hr' <;> cases hk
    rw [option_typed, option_typed] at hT
    rw [coded_eq rfl, coded_eq rfl, rest, rest, given, given] at hC
    simp only [List.append_assoc, List.cons_append, List.nil_append, List.append_cancel_left_eq,
      List.cons.injEq, true_and] at hT hC
    rw [(ih ‹_› (closes_angle _) (closes_angle _) hT hC).1]
  | dictionary hc ih =>
    refine readable_of_eq (fun hr' hk _ _ hT hC => ?_) (.dictionary hc)
    cases hr' <;> cases hk
    rw [dictionary_typed, dictionary_typed] at hT
    rw [coded_eq rfl, coded_eq rfl, dictionary_rest, dictionary_rest, given, given] at hC
    simp only [List.append_assoc, List.cons_append, List.nil_append, List.append_cancel_left_eq,
      List.cons.injEq, true_and] at hT hC
    rw [(ih ‹_› (closes_space _) (closes_space _) hT hC).1]
  | record hfs ih =>
    refine readable_of_eq (fun hr' hk _ _ hT hC => ?_) (.record hfs)
    cases hr' <;> cases hk
    rw [record_read ih ‹_› hT hC]
  | recursion hfs ih =>
    refine readable_of_eq (fun hr' hk _ _ hT hC => ?_) (.recursion hfs)
    cases hr' <;> cases hk
    rw [coded_eq rfl, coded_eq rfl, recursion_rest, recursion_rest] at hC
    simp only [List.append_assoc, List.cons_append, List.nil_append, List.append_cancel_left_eq,
      List.cons.injEq, true_and] at hC
    rw [record_read ih ‹_› hT hC]

end Codec

/-- Schemas of one shape have one expression: they use the same definitions in the same order. -/
theorem expression_of_sameShape {s : Scope} {x y : Schema}
    (h : (schema s x).sameShape (schema s y) = true) :
    Codec.ofSchema s.root x = Codec.ofSchema s.root y := by
  simp only [Fragment.sameShape, Bool.and_eq_true, beq_iff_eq, schema_type, schema_codec] at h
  have hn : Codec.Closes [] := trivial
  have hT := congrArg (fun w : String => w.toList ++ []) h.1
  have hC := congrArg (fun w : String => w.toList ++ []) h.2
  have hx := (Codec.regular_ofSchema s.root x).readable
  exact (hx (Codec.regular_ofSchema s.root y) hn hn hT hC).1

end TypedClient.Code
