import TypedClient.Proofs.Codec.Faithful
import TypedClient.Proofs.Codec.Recursion
import TypedClient.Proofs.Schema.Reached
import TypedClient.Proofs.Text.Nested

/-!
The fields of an object can be read back from its type, and from its codec: every property once, in
order, with its name as it was given and whether it is required. Names and values may hold whatever
the text of an object is made of.
-/

set_option autoImplicit false

namespace TypedClient

open Text (Whole Inner)

namespace Code

open Api (Schema)

/-- The name of a field, and whether its value is without the wrapper of what may be left out. -/
def fieldIn? (opening closing : List Char) : List Char → Option (String × Bool)
  | ' ' :: s =>
    match Text.Quoted.readKey s with
    | some (name, ':' :: ' ' :: value) =>
      some (String.ofList name, (Text.between? opening closing value).isNone)
    | _ => none
  | _ => none

/-- The fields between braces, with the mark `m` between one and the next. -/
def fieldsIn? (m : Char) (opening closing s : List Char) : Option (List (String × Bool)) :=
  if s = ['\x7b', '\x7d'] then some []
  else
    (Text.between? ['\x7b'] [' ', '\x7d'] s).bind fun inner =>
      (Text.outerPieces m (.plain 0) inner).mapM (fieldIn? opening closing)

def typeFields? (type : String) : Option (List (String × Bool)) :=
  fieldsIn? ';' "Option<".toList ['>'] type.toList

/-- What a codec is inside the recursion that ties it to a definition, if there is one. -/
def untied? (s : List Char) : Option (List Char) :=
  match Text.after "t.recursion<".toList s with
  | none => some s
  | some r => Text.between? "=> ".toList [')'] (r.dropWhile fun c => c ≠ '=')

def codecFields? (codec : String) : Option (List (String × Bool)) :=
  (untied? codec.toList).bind fun s =>
    (Text.between? "t.type(".toList [')'] s).bind
      (fieldsIn? ',' "createOptionFromNullable(".toList [')'])

theorem isPlainLetter_of_continues {c : Char} (h : Text.Quoted.continues c = true) :
    Text.isPlainLetter c = true := by
  by_contra hc
  have hm : c ∈ '\'' :: Text.openingBrackets ++ Text.closingBrackets := by
    simp only [Text.isPlainLetter, Bool.and_eq_true, decide_eq_true_eq, Bool.not_eq_true',
      List.contains_eq_mem, decide_eq_false_iff_not] at hc
    simp only [List.cons_append, List.mem_cons, List.mem_append]
    tauto
  have hall : (('\'' :: Text.openingBrackets ++ Text.closingBrackets).all
      fun d => !Text.Quoted.continues d) = true := by decide
  have hc := List.all_eq_true.1 hall c hm
  rw [h] at hc
  cases hc

theorem whole_identifier {m : Char} (hm : Text.Quoted.continues m = false) {s : List Char}
    (h : Text.Quoted.isIdentifier s = true) : Whole m s :=
  Text.whole_letters
    (List.all_eq_true.2 fun c hc =>
      isPlainLetter_of_continues (Text.Quoted.all_of_isIdentifier h c hc))
    (Text.Quoted.not_mem_of_isIdentifier hm h)

/-- What pieces and separator share, and no joining loses, the pieces have when put together. -/
theorem following_closed {P : List Char → Prop} (hn : P []) (ha : ∀ {v w}, P v → P w → P (v ++ w))
    {separator : String} (hs : P separator.toList) {ts : List String} (h : ∀ t ∈ ts, P t.toList) :
    P (Codec.following separator ts) := by
  induction ts with
  | nil => exact hn
  | cons t ts ih =>
    obtain ⟨ht, hts⟩ := List.forall_mem_cons.1 h
    rw [Codec.following_cons]
    exact ha hs (ha ht (ih hts))

theorem whole_following {m : Char} {separator : String} (hs : Whole m separator.toList)
    {ts : List String} (h : ∀ t ∈ ts, Whole m t.toList) : Whole m (Codec.following separator ts) :=
  following_closed (Text.whole_nil m) .append hs h

theorem inner_following {m : Char} {separator : String}
    (hs : separator.toList.all Text.isPlainLetter = true) {ts : List String}
    (h : ∀ t ∈ ts, Whole m t.toList) : Inner m (Codec.following separator ts) :=
  following_closed (Text.whole_nil m).inner .append (Text.inner_letters hs)
    fun t ht => (h t ht).inner

def IsMark (m : Char) : Prop := m = ';' ∨ m = ','

section Mark

variable {m : Char} (hm : IsMark m)

include hm

theorem IsMark.not_continues : Text.Quoted.continues m = false := by
  rcases hm with rfl | rfl <;> decide

theorem whole_quote (v : String) : Whole m (Text.Quoted.quote v).toList := by
  rw [Text.Quoted.quote, String.toList_ofList]
  exact Text.whole_literal (by rcases hm with rfl | rfl <;> decide) _

theorem whole_labelled (key : String) {value : String} (h : Whole m value.toList) :
    Whole m (labelled key value).toList := by
  have hk : Whole m (Text.Quoted.key key).toList := by
    unfold Text.Quoted.key
    split
    · next hi => exact whole_identifier hm.not_continues hi
    · exact whole_quote hm key
  have hs : Whole m [':', ' '] :=
    Text.whole_letters (by decide) (by rcases hm with rfl | rfl <;> decide)
  rw [Codec.labelled_chars]
  exact hk.append (hs.append h)

theorem whole_given {v : List Char} (h : Inner m v) : Whole m (Codec.given v) :=
  Text.whole_brackets (by decide) (by decide) (by rcases hm with rfl | rfl <;> decide) h

theorem whole_braced {separator : String} (hs : separator.toList.all Text.isPlainLetter = true)
    {ts : List String} (h : ∀ t ∈ ts, Whole m t.toList) :
    Whole m (braced ts separator).toList := by
  have hb {v : List Char} (hv : Inner m v) : Whole m ('\x7b' :: (v ++ ['\x7d'])) :=
    Text.whole_brackets (by decide) (by decide) (by rcases hm with rfl | rfl <;> decide) hv
  cases ts with
  | nil =>
    have he : (braced [] separator).toList = ['\x7b', '\x7d'] := by simp [braced]
    exact he ▸ hb (Text.whole_nil m).inner
  | cons t ts =>
    obtain ⟨ht, hts⟩ := List.forall_mem_cons.1 h
    have hblank : Inner m [' '] := Text.inner_letters (by decide)
    have hi := hblank.append (ht.inner.append ((inner_following hs hts).append hblank))
    rw [Codec.braced_chars]
    simpa using hb hi

end Mark

namespace Codec

variable {root : String} {c : Codec}

theorem record_coded (fs : List (String × Codec)) :
    (record fs).coded = "t.type".toList ++ given (braced (fs.map codeLabel) ", ").toList := by
  rw [coded_eq (k := .record) rfl, record_rest]
  rfl

theorem isIdentifier_codecName {name : String} (h : Text.Quoted.isIdentifier name.toList = true) :
    Text.Quoted.isIdentifier (codecName name).toList = true := by
  rw [codecName, String.toList_append]
  cases hn : name.toList with
  | nil => simp [hn, Text.Quoted.isIdentifier] at h
  | cons c s =>
    rw [hn] at h
    simp only [Text.Quoted.isIdentifier, List.cons_append, List.all_append, Bool.and_eq_true] at h ⊢
    exact ⟨h.1, h.2, by decide⟩

theorem escape_identifier {s : List Char} (h : ∀ c ∈ s, Text.Quoted.continues c = true) :
    Text.Quoted.escape s = s := by
  induction s with
  | nil => rfl
  | cons c s ih =>
    obtain ⟨hc, hs⟩ := List.forall_mem_cons.1 h
    have hne : ¬ (c = '\\' ∨ c = '\'') := by rintro (rfl | rfl) <;> exact absurd hc (by decide)
    rw [Text.Quoted.escape, if_neg hne, ih hs]

/-- All the names in an expression are identifiers, those that it is tied to included. -/
def Named (c : Codec) : Prop :=
  ∀ n, n ∈ c.names ∨ n ∈ c.recursions → Text.Quoted.isIdentifier n.toList = true

theorem Named.array {c : Codec} (h : (array c).Named) : c.Named := fun n hn => h n <| by
  simpa [names, recursions, collect_array, ownNames, ownRecursions] using hn

theorem Named.dictionary {c : Codec} (h : (dictionary c).Named) : c.Named := fun n hn => h n <| by
  simpa [names, recursions, collect_dictionary, ownNames, ownRecursions] using hn

theorem Named.option {c : Codec} (h : (option c).Named) : c.Named := fun n hn => h n <| by
  simpa [names, recursions, collect_option, ownNames, ownRecursions] using hn

theorem Named.record {fs : List (String × Codec)} (h : (record fs).Named) :
    ∀ f ∈ fs, f.2.Named := fun f hf n hn => h n <| by
  simp only [names, recursions, collect_record, ownNames, ownRecursions, List.append_nil,
    List.mem_flatMap]
  exact hn.imp (⟨f, hf, ·⟩) (⟨f, hf, ·⟩)

theorem Named.recursion {c : Codec} (h : (recursion root c).Named) :
    c.Named ∧ Text.Quoted.isIdentifier root.toList = true := by
  constructor
  · intro n hn
    refine h n ?_
    simp only [names, recursions, collect_recursion, ownNames, ownRecursions, List.append_nil,
      List.mem_append]
    exact hn.imp_right .inl
  · exact h root (.inr (by simp [recursions_recursion]))

/-- The type of an expression is never cut between its fields. -/
theorem whole_typed (hr : Regular root c) (hn : c.Named) : Whole ';' c.typed := by
  have hrecord {fs : List (String × Codec)} (hf : ∀ f ∈ fs, Whole ';' f.2.typed) :
      Whole ';' (record fs).typed := by
    rw [record_typed]
    refine whole_braced (.inl rfl) (by decide) fun t ht => ?_
    obtain ⟨f, hf', rfl⟩ := List.mem_map.1 ht
    exact whole_labelled (.inl rfl) f.1 (hf f hf')
  have happlied {type v : List Char} (ht : Whole ';' type) (hv : Whole ';' v) :
      Whole ';' (type ++ '<' :: (v ++ ['>'])) :=
    ht.append ((Text.whole_letters (v := ['<']) (by decide) (by decide)).append
      (hv.append (Text.whole_letters (by decide) (by decide))))
  induction hr with
  | reference name =>
    exact whole_identifier (by decide) (hn name (.inl (List.mem_singleton_self name)))
  | literal v => exact whole_quote (.inl rfl) v
  | union v vs =>
    rw [union_typed]
    refine (whole_quote (.inl rfl) v).append
      (whole_following (Text.whole_letters (by decide) (by decide)) fun t ht => ?_)
    obtain ⟨w, _, rfl⟩ := List.mem_map.1 ht
    exact whole_quote (.inl rfl) w
  | array _ ih =>
    rw [array_typed]
    exact happlied (Text.whole_letters (by decide) (by decide)) (ih hn.array)
  | dictionary _ ih =>
    rw [dictionary_typed]
    have hkey : Whole ';' ('[' :: ("key: string".toList ++ [']'])) :=
      Text.whole_brackets (by decide) (by decide) (by decide) (Text.inner_letters (by decide))
    have hi := (Text.inner_letters (m := ';') (v := [' ']) (by decide)).append
      (hkey.inner.append ((Text.inner_letters (v := [':', ' ']) (by decide)).append
        ((ih hn.dictionary).inner.append (Text.inner_letters (v := [' ']) (by decide)))))
    have hw := Text.whole_brackets (o := '\x7b') (c := '\x7d') (by decide) (by decide)
      (by decide) hi
    simpa using hw
  | record _ ih => exact hrecord fun f hf => ih f hf (hn.record f hf)
  | option _ ih =>
    rw [option_typed]
    exact happlied (Text.whole_letters (by decide) (by decide)) (ih hn.option)
  | recursion _ ih => exact hrecord fun f hf => ih f hf (hn.recursion.1.record f hf)
  | _ => exact Text.whole_letters (by decide) (by decide)

theorem whole_keyword (k : Kind) : Whole ',' k.keyword := by
  cases k <;> exact Text.whole_letters (by decide) (by decide)

theorem whole_tied {v : List Char} (hr : Text.Quoted.isIdentifier root.toList = true)
    (h : Whole ',' v) : Whole ',' ('<' :: (root.toList ++ '>' :: given (tie root ++ v))) := by
  have hi := isIdentifier_codecName hr
  have hq : Whole ',' ('\'' :: ((codecName root).toList ++ ['\''])) := by
    have hl := Text.whole_literal (m := ',') (by decide) (codecName root).toList
    rwa [Text.Quoted.literal, escape_identifier (Text.Quoted.all_of_isIdentifier hi),
      List.cons_append] at hl
  have ht : Inner ',' (tie root) := by
    have := hq.inner.append ((Text.inner_letters (v := [',', ' ']) (by decide)).append
      ((whole_identifier (by decide) hi).inner.append
        (Text.inner_letters (v := " => ".toList) (by decide))))
    simpa [tie] using this
  exact (Text.whole_letters (v := ['<']) (by decide) (by decide)).append
    ((whole_identifier (by decide) hr).append
      ((Text.whole_letters (v := ['>']) (by decide) (by decide)).append
        (whole_given (.inr rfl) (ht.append h.inner))))

/-- A codec is never cut between its fields. -/
theorem whole_coded (hr : Regular root c) (hn : c.Named) : Whole ',' c.coded := by
  have hrecord {fs : List (String × Codec)} (hf : ∀ f ∈ fs, Whole ',' f.2.coded) :
      Whole ',' (record fs).coded := by
    rw [record_coded]
    refine (whole_keyword .record).append
      (whole_given (.inr rfl) (whole_braced (.inr rfl) (by decide) ?_).inner)
    intro t ht
    obtain ⟨f, hf', rfl⟩ := List.mem_map.1 ht
    exact whole_labelled (.inr rfl) f.1 (hf f hf')
  have hliteral (v : String) : Whole ',' (literal v).coded := by
    rw [coded_eq rfl]
    exact (whole_keyword .literal).append (whole_given (.inr rfl) (whole_quote (.inr rfl) v).inner)
  induction hr with
  | reference name =>
    exact whole_identifier (by decide)
      (isIdentifier_codecName (hn name (.inl (List.mem_singleton_self name))))
  | literal v => exact hliteral v
  | union v vs =>
    rw [coded_eq rfl, union_rest]
    refine (whole_keyword .union).append (whole_given (.inr rfl) (Whole.inner ?_))
    rw [← List.append_assoc]
    refine Text.whole_brackets (by decide) (by decide) (by decide)
      ((hliteral v).inner.append (inner_following (by decide) fun t ht => ?_))
    obtain ⟨w, _, rfl⟩ := List.mem_map.1 ht
    exact hliteral w
  | array _ ih =>
    rw [coded_eq rfl]
    exact (whole_keyword .array).append (whole_given (.inr rfl) (ih hn.array).inner)
  | dictionary _ ih =>
    rw [coded_eq rfl, dictionary_rest]
    exact (whole_keyword .dictionary).append (whole_given (.inr rfl)
      ((Text.inner_letters (by decide)).append (ih hn.dictionary).inner))
  | record _ ih => exact hrecord fun f hf => ih f hf (hn.record f hf)
  | option _ ih =>
    rw [coded_eq rfl]
    exact (whole_keyword .option).append (whole_given (.inr rfl) (ih hn.option).inner)
  | recursion _ ih =>
    rw [coded_eq rfl]
    obtain ⟨hb, hi⟩ := hn.recursion
    exact (whole_keyword .recursion).append
      (whole_tied hi (hrecord fun f hf => ih f hf (hb.record f hf)))
  | _ =>
    rw [coded_eq rfl]
    exact (whole_keyword _).append (Text.whole_nil ',')

end Codec

theorem fieldIn?_labelled (opening closing : List Char) (name value : String) :
    fieldIn? opening closing (' ' :: (labelled name value).toList) =
      some (name, (Text.between? opening closing value.toList).isNone) := by
  simp [fieldIn?, Codec.labelled_chars, Text.Quoted.readKey_key]

theorem mapM_labelled (opening closing : List Char) (fs : List (String × String)) :
    (fs.map fun f => ' ' :: (labelled f.1 f.2).toList).mapM (fieldIn? opening closing) =
      some (fs.map fun f => (f.1, (Text.between? opening closing f.2.toList).isNone)) := by
  induction fs with
  | nil => rfl
  | cons f fs ih => simp [fieldIn?_labelled, ih]

/-- Whatever the names, and whatever the values are made of: the fields come back in their order. -/
theorem fieldsIn?_braced {m : Char} (hm : IsMark m) {separator : String}
    (hs : separator.toList = [m, ' ']) (opening closing : List Char) {fs : List (String × String)}
    (h : ∀ f ∈ fs, Whole m f.2.toList) :
    fieldsIn? m opening closing (braced (fs.map fun f => labelled f.1 f.2) separator).toList =
      some (fs.map fun f => (f.1, (Text.between? opening closing f.2.toList).isNone)) := by
  cases fs with
  | nil => simp [braced, fieldsIn?]
  | cons f fs =>
    obtain ⟨hf, hfs⟩ := List.forall_mem_cons.1 h
    have hmb : m ≠ ' ' := by rcases hm with rfl | rfl <;> decide
    have hblank : Whole m [' '] := Text.whole_letters (by decide) (by simpa using hmb)
    have hw : ∀ w ∈ fs.map fun f => (labelled f.1 f.2).toList, Whole m w := by
      intro w hw
      obtain ⟨g, hg, rfl⟩ := List.mem_map.1 hw
      exact whole_labelled hm g.1 (hfs g hg)
    -- Behind the brace every piece begins with a blank, the first as well.
    have hp := Text.outerPieces_following hmb (hblank.append (whole_labelled hm f.1 hf)) hw
    have hb := Text.between?_append ['\x7b'] [' ', '\x7d'] (([' '] ++ (labelled f.1 f.2).toList) ++
      (fs.map fun f => (labelled f.1 f.2).toList).flatMap fun w => m :: ' ' :: w)
    have ht : (braced ((f :: fs).map fun f => labelled f.1 f.2) separator).toList =
        ['\x7b'] ++ ((([' '] ++ (labelled f.1 f.2).toList) ++
          (fs.map fun f => (labelled f.1 f.2).toList).flatMap fun w => m :: ' ' :: w) ++
            [' ', '\x7d']) := by
      rw [List.map_cons, Codec.braced_chars, Codec.following, hs]
      simp [List.flatMap_map]
    rw [fieldsIn?, if_neg (by rw [ht]; simp), ht, hb, Option.bind_some, hp, List.map_map]
    exact mapM_labelled opening closing (f :: fs)

namespace Codec

variable {root : String} {c : Codec}

theorem eq_reference_of_kind? (h : c.kind? = none) : ∃ name, c = .reference name := by
  cases c with
  | reference name => exact ⟨name, rfl⟩
  | _ => cases h

/-- A name that is an identifier is no wrapper: what opens the wrapper stands in none. -/
theorem not_begins_identifier (wrapper : List Char) {s : List Char} {o : Char}
    (ho : Text.Quoted.continues o = false) (h : Text.Quoted.isIdentifier s = true) :
    ¬ wrapper ++ [o] <+: s := fun hp =>
  Text.Quoted.not_mem_of_isIdentifier ho h (hp.subset (by simp))

theorem typed_unwrapped (hr : Regular root c) (hn : c.Named) (ho : c.isOption = false) :
    ¬ "Option<".toList <+: c.typed := by
  cases hk : c.kind? with
  | none =>
    obtain ⟨name, rfl⟩ := eq_reference_of_kind? hk
    exact not_begins_identifier ("Option".toList) (by decide)
      (hn name (.inl (List.mem_singleton_self name)))
  | some k =>
    obtain ⟨w, hw⟩ := typed_opening hr hk
    intro hp
    rw [hw] at hp
    have hO : 'O' = k.opening := (List.cons_prefix_cons.1 hp).1
    have hk' : k = .option := by
      revert hO
      cases k <;> decide
    subst hk'
    cases c <;> cases hk
    cases ho

theorem keyword_begins {k : Kind} (h : k ≠ .option) : ∃ a w, k.keyword = a :: w ∧ a ≠ 'c' := by
  cases k <;> first
    | exact absurd rfl h
    | exact ⟨_, _, rfl, by decide⟩

theorem coded_unwrapped (hn : c.Named) (ho : c.isOption = false) :
    ¬ "createOptionFromNullable(".toList <+: c.coded := by
  cases hk : c.kind? with
  | none =>
    obtain ⟨name, rfl⟩ := eq_reference_of_kind? hk
    exact not_begins_identifier ("createOptionFromNullable".toList) (by decide)
      (isIdentifier_codecName (hn name (.inl (List.mem_singleton_self name))))
  | some k =>
    intro hp
    rw [coded_eq hk] at hp
    have hk' : k = .option := by
      by_contra hne
      obtain ⟨a, w, ha, hc⟩ := keyword_begins hne
      simp only [ha, String.reduceToList, List.cons_append, List.cons_prefix_cons] at hp
      exact hc hp.1.symm
    subst hk'
    cases c <;> cases hk
    cases ho

theorem untied?_record (fs : List (String × Codec)) :
    untied? (record fs).coded = some (record fs).coded := by
  have ha : Text.after "t.recursion<".toList (record fs).coded = none := by
    simp [record_coded, Text.after]
  rw [untied?, ha]

theorem untied?_recursion (h : Text.Quoted.isIdentifier root.toList = true) :
    untied? (recursion root c).coded = some c.coded := by
  have hi := isIdentifier_codecName h
  have hs : (recursion root c).coded =
      "t.recursion<".toList ++ ((root.toList ++ (">('".toList ++ ((codecName root).toList ++
        ("', ".toList ++ ((codecName root).toList ++ [' ']))))) ++
          ("=> ".toList ++ (c.coded ++ [')']))) := by
    have hk : Kind.recursion.keyword ++ ['<'] = "t.recursion<".toList := by decide
    rw [coded_eq rfl, recursion_rest, ← hk]
    change Kind.recursion.keyword ++ _ = _
    simp [tie]
  have hb : ∀ d ∈ root.toList ++ (">('".toList ++ ((codecName root).toList ++
      ("', ".toList ++ ((codecName root).toList ++ [' '])))), decide (d ≠ '=') = true := by
    have hr := Text.Quoted.not_mem_of_isIdentifier (d := '=') (by decide) h
    have hc := Text.Quoted.not_mem_of_isIdentifier (d := '=') (by decide) hi
    intro d hd
    refine decide_eq_true fun he => ?_
    subst he
    simp [hr, hc] at hd
  rw [untied?, hs, Text.after_append]
  simp only [List.dropWhile_append_of_pos hb]
  exact Text.between?_append "=> ".toList [')'] c.coded

theorem eq_root_of_mem_recursions (hr : Regular root c) : ∀ n ∈ c.recursions, n = root := by
  have hfields {fs : List (String × Codec)} (ih : ∀ f ∈ fs, ∀ n ∈ f.2.recursions, n = root) :
      ∀ n ∈ (record fs).recursions, n = root := by
    intro n hn
    rw [recursions_record] at hn
    obtain ⟨f, hf, hn⟩ := List.mem_flatMap.1 hn
    exact ih f hf n hn
  induction hr with
  | union v vs =>
    intro n hn
    simp [recursions, collect_union, collect_literal, ownRecursions, List.flatMap_map] at hn
  | array _ ih => rwa [recursions_array]
  | dictionary _ ih => rwa [recursions_dictionary]
  | record _ ih => exact hfields ih
  | option _ ih => simpa [recursions, collect_option, ownRecursions] using ih
  | recursion _ ih =>
    intro n hn
    rw [recursions_recursion] at hn
    rcases List.mem_append.1 hn with hn | hn
    · exact hfields ih n hn
    · exact List.mem_singleton.1 hn
  | _ => exact fun _ hn => absurd hn List.not_mem_nil

theorem named_ofSchema (root : String) {x : Schema}
    (hn : ∀ n ∈ visited x, Text.Quoted.isIdentifier n.toList = true) :
    (ofSchema root x).Named := by
  rintro n (h | h)
  · rw [ofSchema_names] at h
    exact hn n h
  · rw [eq_root_of_mem_recursions (regular_ofSchema root x) n h]
    refine hn root (mem_visited.2 (.inr ?_))
    by_contra he
    rw [recursions_eq_nil.2 he] at h
    cases h

theorem isOption_ofSchema (x : Schema) : (ofSchema root x).isOption = false := by
  rw [ofSchema_shape]
  exact (ofShape_plain root _).1

section Field

variable (required : Option (List String)) (name : String) {x : Schema}
  (hn : ∀ n ∈ visited x, Text.Quoted.isIdentifier n.toList = true)

include hn

theorem between?_typed :
    (Text.between? "Option<".toList ['>']
        (ofField required name (ofSchema root x)).2.typed).isNone =
      Schema.isRequired required name := by
  have hu := typed_unwrapped (regular_ofSchema root x) (named_ofSchema root hn)
    (isOption_ofSchema x)
  cases hq : Schema.isRequired required name with
  | true => simp only [ofField, hq, if_true, Text.between?_eq_none hu, Option.isNone_none]
  | false =>
    have ht : (option (ofSchema root x)).typed =
        "Option<".toList ++ ((ofSchema root x).typed ++ ['>']) := option_typed _
    simp only [ofField, hq, Bool.false_eq_true, if_false, ht, Text.between?_append,
      Option.isNone_some]

theorem between?_coded :
    (Text.between? "createOptionFromNullable(".toList [')']
        (ofField required name (ofSchema root x)).2.coded).isNone =
      Schema.isRequired required name := by
  have hu := coded_unwrapped (named_ofSchema root hn) (isOption_ofSchema x)
  cases hq : Schema.isRequired required name with
  | true => simp only [ofField, hq, if_true, Text.between?_eq_none hu, Option.isNone_none]
  | false =>
    have hc : (option (ofSchema root x)).coded =
        "createOptionFromNullable(".toList ++ ((ofSchema root x).coded ++ [')']) := by
      have hk : Kind.option.keyword ++ ['('] = "createOptionFromNullable(".toList := by decide
      rw [coded_eq rfl, ← hk]
      simp [rest, given]
    simp only [ofField, hq, Bool.false_eq_true, if_false, hc, Text.between?_append,
      Option.isNone_some]

end Field

/-- The codec of an object of fields, without the recursion that may be around it. -/
theorem untied?_ofSchema {x : Schema} {ps : List (String × Schema)}
    {required : Option (List String)} (h : x.properties? = some (ps, required))
    (hn : (ofSchema root x).Named) :
    untied? (ofSchema root x).coded = some (record (ofProperties root required ps)).coded := by
  rcases ofSchema_of_properties root h with hx | hx
  · rw [hx, untied?_record]
  · rw [hx] at hn ⊢
    exact untied?_recursion hn.recursion.2

theorem record_ofProperties {x : Schema} {ps : List (String × Schema)}
    {required : Option (List String)} (h : x.properties? = some (ps, required))
    (hn : (ofSchema root x).Named) :
    ∀ f ∈ ofProperties root required ps, Regular root f.2 ∧ f.2.Named := by
  have hr := regular_ofSchema root x
  rcases ofSchema_of_properties root h with hx | hx
  · rw [hx] at hr hn
    cases hr with
    | record hr => exact fun f hf => ⟨hr f hf, hn.record f hf⟩
  · rw [hx] at hr hn
    cases hr with
    | recursion hr => exact fun f hf => ⟨hr f hf, hn.recursion.1.record f hf⟩

end Codec

section Read

variable (s : Scope) {x : Schema} {ps : List (String × Schema)} {required : Option (List String)}
  (hp : x.properties? = some (ps, required))
  (hn : ∀ n ∈ visited x, Text.Quoted.isIdentifier n.toList = true)

include hp hn

theorem typeFields?_schema :
    typeFields? (schema s x).type =
      some (ps.map fun e => (e.1, Schema.isRequired required e.1)) := by
  have hf := Codec.record_ofProperties hp (Codec.named_ofSchema s.root hn)
  let fs := (Codec.ofProperties s.root required ps).map fun f => (f.1, f.2.static.text)
  have ht : (schema s x).type.toList =
      (braced (fs.map fun f => labelled f.1 f.2) "; ").toList := by
    have hx : (Codec.ofSchema s.root x).typed =
        (Codec.record (Codec.ofProperties s.root required ps)).typed := by
      rcases Codec.ofSchema_of_properties s.root hp with h | h
      · rw [h]
      · rw [h]
        rfl
    rw [schema_type, List.map_map]
    exact hx.trans (Codec.record_typed _)
  rw [typeFields?, ht, fieldsIn?_braced (.inl rfl) rfl, List.map_map, Codec.ofProperties_eq,
    List.map_map]
  · congr 1
    refine List.map_congr_left fun e he => Prod.ext rfl ?_
    exact Codec.between?_typed required e.1 fun n h => hn n (visited_property hp he h)
  · intro f hf'
    obtain ⟨g, hg, rfl⟩ := List.mem_map.1 hf'
    exact Codec.whole_typed (hf g hg).1 (hf g hg).2

theorem codecFields?_schema :
    codecFields? (schema s x).codec =
      some (ps.map fun e => (e.1, Schema.isRequired required e.1)) := by
  have hx := Codec.named_ofSchema s.root hn
  have hf := Codec.record_ofProperties hp hx
  let fs := (Codec.ofProperties s.root required ps).map fun f => (f.1, f.2.text)
  have hc : (Codec.record (Codec.ofProperties s.root required ps)).coded =
      "t.type(".toList ++ ((braced (fs.map fun f => labelled f.1 f.2) ", ").toList ++ [')']) := by
    have hk : "t.type".toList ++ ['('] = "t.type(".toList := by decide
    rw [Codec.record_coded, ← hk, List.map_map]
    simp only [Codec.given, List.append_assoc]
    rfl
  have hu := Codec.untied?_ofSchema hp hx
  rw [codecFields?, schema_codec]
  change (untied? (Codec.ofSchema s.root x).coded).bind _ = _
  rw [hu, hc, Option.bind_some, Text.between?_append, Option.bind_some,
    fieldsIn?_braced (.inr rfl) rfl, List.map_map, Codec.ofProperties_eq, List.map_map]
  · congr 1
    refine List.map_congr_left fun e he => Prod.ext rfl ?_
    exact Codec.between?_coded required e.1 fun n h => hn n (visited_property hp he h)
  · intro f hf'
    obtain ⟨g, hg, rfl⟩ := List.mem_map.1 hf'
    exact Codec.whole_coded (hf g hg).1 (hf g hg).2

end Read

/-- Whatever the names of the properties and whatever stands in them: the type and the codec of an
object have its properties for fields, each once and in order, and a field is without the wrapper of
what may be left out exactly when its name is required. The wrappers are imported exactly when the
compiler comes upon a property that is not required. -/
theorem fields_readBack (s : Scope) {x : Schema} {ps : List (String × Schema)}
    {required : Option (List String)} (hp : x.properties? = some (ps, required))
    (hn : ∀ n ∈ visited x, Text.Quoted.isIdentifier n.toList = true) :
    typeFields? (schema s x).type =
        some (ps.map fun e => (e.1, decide (e.1 ∈ required.getD []))) ∧
      codecFields? (schema s x).codec =
        some (ps.map fun e => (e.1, decide (e.1 ∈ required.getD []))) ∧
      (Import.option ⊆ (schema s x).imports ↔ ∃ y, x.Reaches y ∧ y.HasOptional) ∧
      ∀ i ∈ Import.option, i.path ≠ s.relative ++ i.name →
        (i ∈ (schema s x).imports ↔ ∃ y, x.Reaches y ∧ y.HasOptional) := by
  simp only [← Schema.isRequired_eq]
  refine ⟨typeFields?_schema s hp hn, codecFields?_schema s hp hn, option_subset_imports, ?_⟩
  exact fun i hi hne => option_mem_imports hi hne x

def thicket : Schema :=
  .object
    (some
      [("a: Option<x>; b", .array (.untyped [("\x7d", .reference "#/definitions/R"),
          ("it's", .string none (some [.text "; c: t.type(\x7b \\' ", .text ", "]))]
        (some ["it's", "it's", "absent"]))),
      ("Option", .reference "Option"),
      ("", .object none none (some (.like (.array .boolean))))])
    (some ["", "absent", "Option"]) (some (.allowed false))

theorem thicket_fields :
    (∀ n ∈ visited thicket, Text.Quoted.isIdentifier n.toList = true) ∧
      typeFields? (schema ⟨"./", "R"⟩ thicket).type =
        some [("a: Option<x>; b", false), ("Option", true), ("", true)] ∧
      codecFields? (schema ⟨"./", "R"⟩ thicket).codec =
        some [("a: Option<x>; b", false), ("Option", true), ("", true)] ∧
      Import.option ⊆ (schema ⟨"./", "R"⟩ thicket).imports := by
  have hn : ∀ n ∈ visited thicket, Text.Quoted.isIdentifier n.toList = true := by decide
  obtain ⟨ht, hc, hi, -⟩ := fields_readBack ⟨"./", "R"⟩ (x := thicket) rfl hn
  refine ⟨hn, ht, hc, hi.2 ⟨thicket, .self _, _, _, rfl, _, List.mem_cons_self, by decide⟩⟩

end Code

end TypedClient
