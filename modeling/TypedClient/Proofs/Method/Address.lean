import TypedClient.Code.Method
import TypedClient.Proofs.Text.Quoted

/-!
The address of a method is its path read once. Arguments are put in one after the other, each in the
text that the others left; what comes out is what one pass over the path gives that knows them all.
-/

set_option autoImplicit false

namespace TypedClient.Code

open Api (SimpleParameter)

def IsPlainName (n : List Char) : Prop := '\x7b' ∉ n ∧ '\x7d' ∉ n

instance (n : List Char) : Decidable (IsPlainName n) := inferInstanceAs (Decidable (_ ∧ _))

def inBraces (n : List Char) : List Char := '\x7b' :: n ++ ['\x7d']

def closedName? : List Char → Option (List Char × List Char)
  | [] => none
  | c :: s =>
    if c = '\x7d' then some ([], s)
    else if c = '\x7b' then none
    else (closedName? s).map fun (n, r) => (c :: n, r)

def placeholder? : List Char → Option (List Char × List Char)
  | [] => none
  | c :: s => if c = '\x7b' then closedName? s else none

theorem closedName?_eq_some {s n r : List Char} :
    closedName? s = some (n, r) ↔ s = n ++ '\x7d' :: r ∧ IsPlainName n := by
  induction s generalizing n with
  | nil => simp [closedName?]
  | cons c s ih =>
    by_cases hr : c = '\x7d'
    · cases n with
      | nil => simp [closedName?, hr, IsPlainName]
      | cons d n => simp_all [closedName?, IsPlainName]; grind
    · by_cases hl : c = '\x7b'
      · cases n <;> simp_all [closedName?, IsPlainName]; grind
      · cases n with
        | nil => simp [closedName?, hr, hl]
        | cons d n => simp [closedName?, hr, hl, ih, IsPlainName]; grind

theorem placeholder?_eq_some {s n r : List Char} :
    placeholder? s = some (n, r) ↔ s = inBraces n ++ r ∧ IsPlainName n := by
  cases s with
  | nil => simp [placeholder?, inBraces]
  | cons c s => by_cases hc : c = '\x7b' <;> simp [placeholder?, inBraces, hc, closedName?_eq_some]

section Fill

variable (value : List Char → Option (List Char))

/-- Puts its value for every name in braces that has one, and copies all else; `skipped` characters
of a name are still under the reader. What was put in is not read. -/
def fillFrom : List Char → Nat → List Char
  | [], _ => []
  | _ :: s, skipped + 1 => fillFrom s skipped
  | c :: s, 0 =>
    match placeholder? (c :: s) with
    | none => c :: fillFrom s 0
    | some (n, _) =>
      match value n with
      | some t => t ++ fillFrom s (n.length + 1)
      | none => c :: fillFrom s 0

def fill (s : List Char) : List Char := fillFrom value s 0

end Fill

variable {value : List Char → Option (List Char)}

theorem fillFrom_skip (value : List Char → Option (List Char)) (a s : List Char) :
    fillFrom value (a ++ s) a.length = fill value s := by
  induction a with
  | nil => rfl
  | cons c a ih => simpa [fillFrom] using ih

theorem fill_inBraces {n t s : List Char} (hn : IsPlainName n) (ht : value n = some t) :
    fill value (inBraces n ++ s) = t ++ fill value s := by
  have hp : placeholder? (inBraces n ++ s) = some (n, s) := placeholder?_eq_some.2 ⟨rfl, hn⟩
  have hs := fillFrom_skip value (n ++ ['\x7d']) s
  rw [List.length_append, List.length_singleton] at hs
  simp only [inBraces, List.cons_append] at hp ⊢
  simp only [fill, fillFrom, hp, ht]
  rw [hs, fill]

theorem fill_copied {c : Char} {s : List Char}
    (h : ∀ n r, placeholder? (c :: s) = some (n, r) → value n = none) :
    fill value (c :: s) = c :: fill value s := by
  simp only [fill, fillFrom]
  split
  · rfl
  · next n r hp => simp only [h n r hp]

theorem fill_append {u s : List Char} (h : '\x7b' ∉ u) :
    fill value (u ++ s) = u ++ fill value s := by
  induction u with
  | nil => rfl
  | cons c u ih =>
    have hc := List.ne_of_not_mem_cons h
    have hu := List.not_mem_of_not_mem_cons h
    have hp : placeholder? (c :: (u ++ s)) = none := by simp [placeholder?, Ne.symm hc]
    rw [List.cons_append, fill_copied (by simp [hp]), ih hu, List.cons_append]

theorem fill_none (s : List Char) : fill (fun _ => none) s = s := by
  induction s with
  | nil => rfl
  | cons c s ih => rw [fill_copied fun _ _ _ => rfl, ih]

def spliced (e : List Char) : List Char := '$' :: inBraces e

theorem fill_spliced {e s : List Char} (he : IsPlainName e) (hv : value e = none) :
    fill value (spliced e ++ s) = spliced e ++ fill value s := by
  have hd : placeholder? ('$' :: (inBraces e ++ s)) = none := by simp [placeholder?]
  have hb : placeholder? ('\x7b' :: (e ++ ['\x7d'] ++ s)) = some (e, s) :=
    placeholder?_eq_some.2 ⟨by simp [inBraces], he⟩
  have hl : '\x7b' ∉ e ++ ['\x7d'] := by simp [he.1]
  calc fill value (spliced e ++ s)
    _ = '$' :: fill value ('\x7b' :: (e ++ ['\x7d'] ++ s)) := fill_copied (by simp [hd])
    _ = '$' :: '\x7b' :: fill value (e ++ ['\x7d'] ++ s) := by
      rw [fill_copied]
      intro n r h
      rw [hb] at h
      cases h
      exact hv
    _ = spliced e ++ fill value s := by rw [fill_append hl]; rfl

section Replace

variable {n t e s : List Char}

/-- What is put in changes no name that a text goes on with, for it has no end of a name but after
an opening brace. -/
theorem closedName?_replaceAll :
    closedName? (Text.replaceAll (inBraces n) (spliced e) s) =
      (closedName? s).map fun p => (p.1, Text.replaceAll (inBraces n) (spliced e) p.2) := by
  induction s with
  | nil => rfl
  | cons c s ih =>
    cases ha : Text.after (inBraces n) (c :: s) with
    | some r =>
      rw [Text.eq_append_of_after ha, Text.replaceAll_match _ _ _ (by simp [inBraces])]
      simp [spliced, inBraces, closedName?]
    | none =>
      rw [Text.replaceAll_step _ _ _ _ ha]
      by_cases hr : c = '\x7d'
      · simp [closedName?, hr]
      · by_cases hl : c = '\x7b'
        · simp [closedName?, hl]
        · simp only [closedName?, hr, hl, if_false, ih, Option.map_map]
          rfl

theorem placeholder?_replaceAll {c : Char} :
    placeholder? (c :: Text.replaceAll (inBraces n) (spliced e) s) =
      (placeholder? (c :: s)).map fun p => (p.1, Text.replaceAll (inBraces n) (spliced e) p.2) := by
  by_cases hc : c = '\x7b' <;> simp [placeholder?, hc, closedName?_replaceAll]

/-- Putting in one name and then all others is putting in all of them at once. -/
theorem fill_replaceAll (hn : IsPlainName n) (he : IsPlainName e) (hv : value e = none) :
    fill value (Text.replaceAll (inBraces n) (spliced e) s) =
      fill (fun m => if m = n then some (spliced e) else value m) s := by
  induction hl : s.length using Nat.strongRecOn generalizing s with
  | ind l ih =>
  cases s with
  | nil => rfl
  | cons c s =>
    cases ha : Text.after (inBraces n) (c :: s) with
    | some r =>
      have hs := Text.eq_append_of_after ha
      have hr : r.length < l := by simp [← hl, hs, inBraces]; omega
      rw [hs, Text.replaceAll_match _ _ _ (by simp [inBraces]), fill_spliced he hv,
        fill_inBraces hn (if_pos rfl), ih _ hr rfl]
    | none =>
      have hc := ih s.length (by simp [← hl]) rfl
      have hp := placeholder?_replaceAll (n := n) (e := e) (c := c) (s := s)
      rw [Text.replaceAll_step _ _ _ _ ha]
      cases hm : placeholder? (c :: s) with
      | none => rw [fill_copied (by simp [hp, hm]), fill_copied (by simp [hm]), hc]
      | some q =>
        obtain ⟨m, r⟩ := q
        obtain ⟨hs, hmp⟩ := placeholder?_eq_some.1 hm
        have hne : m ≠ n := by
          rintro rfl
          rw [hs, Text.after_append] at ha
          cases ha
        rw [hm] at hp
        cases hv' : value m with
        | none =>
          rw [fill_copied, fill_copied, hc]
          · intro m' r' h
            rw [hm] at h
            cases h
            rw [if_neg hne, hv']
          · intro m' r' h
            rw [hp] at h
            cases h
            exact hv'
        | some t =>
          have hr : r.length < l := by simp [← hl, hs, inBraces]; omega
          rw [(placeholder?_eq_some.1 hp).1, hs, fill_inBraces hmp hv',
            fill_inBraces hmp (by rw [if_neg hne, hv']), ih _ hr rfl]

end Replace

section Pieces

variable {α : Type} (value : List Char → Option α)

def piecesFrom : List Char → Nat → List (Char ⊕ α)
  | [], _ => []
  | _ :: s, skipped + 1 => piecesFrom s skipped
  | c :: s, 0 =>
    match placeholder? (c :: s) with
    | none => .inl c :: piecesFrom s 0
    | some (n, _) =>
      match value n with
      | some a => .inr a :: piecesFrom s (n.length + 1)
      | none => .inl c :: piecesFrom s 0

variable {value}

theorem fillFrom_pieces (spell : α → List Char) (s : List Char) (skipped : Nat) :
    fillFrom (fun n => (value n).map spell) s skipped =
      (piecesFrom value s skipped).flatMap (Sum.elim (fun c => [c]) spell) := by
  induction s generalizing skipped with
  | nil => rfl
  | cons c s ih =>
    cases skipped with
    | succ skipped => exact ih skipped
    | zero =>
      rw [fillFrom, piecesFrom]
      cases placeholder? (c :: s) with
      | none => simp [ih]
      | some nr => cases hv : value nr.1 <;> simp [hv, ih]

theorem piecesFrom_skip (value : List Char → Option α) (a s : List Char) :
    piecesFrom value (a ++ s) a.length = piecesFrom value s 0 := by
  induction a with
  | nil => rfl
  | cons c a ih => simpa [piecesFrom] using ih

theorem pieces_placed {n : List Char} {a : α} (hn : IsPlainName n) (hv : value n = some a)
    (s : List Char) : piecesFrom value (inBraces n ++ s) 0 = .inr a :: piecesFrom value s 0 := by
  have hp : placeholder? (inBraces n ++ s) = some (n, s) := placeholder?_eq_some.2 ⟨rfl, hn⟩
  have hs := piecesFrom_skip value (n ++ ['\x7d']) s
  rw [List.length_append, List.length_singleton] at hs
  simp only [inBraces, List.cons_append] at hp ⊢
  simp only [piecesFrom, hp, hv, hs]

theorem pieces_copied {c : Char} {s : List Char}
    (h : ∀ n r, placeholder? (c :: s) = some (n, r) → value n = none) :
    piecesFrom value (c :: s) 0 = .inl c :: piecesFrom value s 0 := by
  rw [piecesFrom]
  split
  · rfl
  · next n r hp => simp only [h n r hp]

/-- A text is empty, begins with a name that stands for something, or begins with a letter that is
copied. -/
theorem pieces_induction (value : List Char → Option α) {motive : List Char → Prop}
    (nil : motive [])
    (placed : ∀ n a s, IsPlainName n → value n = some a → motive s → motive (inBraces n ++ s))
    (copied : ∀ c s, (∀ n r, placeholder? (c :: s) = some (n, r) → value n = none) → motive s →
      motive (c :: s)) (s : List Char) : motive s := by
  induction hl : s.length using Nat.strongRecOn generalizing s with
  | _ l ih =>
    cases s with
    | nil => exact nil
    | cons c s =>
      have hs : motive s := ih _ (by simp [← hl]) s rfl
      cases hp : placeholder? (c :: s) with
      | none => exact copied c s (by simp [hp]) hs
      | some nr =>
        obtain ⟨he, hn⟩ := placeholder?_eq_some.1 hp
        cases hv : value nr.1 with
        | none =>
          refine copied c s (fun n r h => ?_) hs
          rw [hp] at h
          cases h
          exact hv
        | some a =>
          have hr : nr.2.length < l := by simp [← hl, he, inBraces]; omega
          exact he ▸ placed nr.1 a nr.2 hn hv (ih _ hr nr.2 rfl)

theorem placed_of_mem {s : List Char} {skipped : Nat} {a : α}
    (h : .inr a ∈ piecesFrom value s skipped) : ∃ n, value n = some a ∧ inBraces n <:+: s := by
  induction s generalizing skipped with
  | nil => simp [piecesFrom] at h
  | cons c s ih =>
    have hlater {skipped : Nat} (h : .inr a ∈ piecesFrom value s skipped) :
        ∃ n, value n = some a ∧ inBraces n <:+: c :: s := by
      obtain ⟨n, hv, hi⟩ := ih h
      exact ⟨n, hv, hi.trans (List.suffix_cons c s).isInfix⟩
    cases skipped with
    | succ skipped => exact hlater h
    | zero =>
      rw [piecesFrom] at h
      cases hp : placeholder? (c :: s) with
      | none => exact hlater (by simpa [hp] using h)
      | some nr =>
        cases hv : value nr.1 with
        | none => exact hlater (by simpa [hp, hv] using h)
        | some b =>
          simp only [hp, hv, List.mem_cons, Sum.inr.injEq] at h
          rcases h with rfl | h
          · exact ⟨nr.1, hv, (placeholder?_eq_some.1 hp).1 ▸ (List.prefix_append _ _).isInfix⟩
          · exact hlater h

/-- A name in braces that stands after others stands behind all of the first. -/
theorem infix_of_append {w r t u x : List Char} (hw : '\x7b' ∉ w)
    (h : u ++ ('\x7b' :: x ++ t) = w ++ r) : '\x7b' :: x <:+: r := by
  rcases List.append_eq_append_iff.1 h with ⟨v, rfl, hv⟩ | ⟨v, rfl, hr⟩
  · cases v with
    | nil => exact ⟨[], t, by simpa using hv⟩
    | cons d v =>
      rw [List.cons_append, List.cons_append, List.cons.injEq] at hv
      exact absurd (List.mem_append_right u (hv.1 ▸ List.mem_cons_self)) hw
  · exact ⟨v, t, by simpa using hr.symm⟩

theorem mem_pieces {n : List Char} {a : α} (hn : IsPlainName n) (hv : value n = some a)
    {s : List Char} (h : inBraces n <:+: s) : .inr a ∈ piecesFrom value s 0 := by
  induction s using pieces_induction value with
  | nil => simp [inBraces] at h
  | placed m b s hm hb ih =>
    rw [pieces_placed hm hb]
    obtain ⟨u, t, hs⟩ := h
    cases u with
    | nil =>
      have hp : placeholder? (inBraces m ++ s) = some (n, t) :=
        placeholder?_eq_some.2 ⟨hs.symm, hn⟩
      rw [placeholder?_eq_some.2 ⟨rfl, hm⟩] at hp
      cases hp
      rw [hv] at hb
      cases hb
      exact List.mem_cons_self
    | cons c u =>
      have hnb : '\x7b' ∉ m ++ ['\x7d'] := by simp [hm.1]
      have ht : u ++ ('\x7b' :: (n ++ ['\x7d']) ++ t) = m ++ ['\x7d'] ++ s := by
        simpa [inBraces] using (List.cons.inj hs).2
      exact List.mem_cons_of_mem _ (ih (infix_of_append hnb ht))
  | copied c s hc ih =>
    rw [pieces_copied hc]
    rcases List.infix_cons_iff.1 h with ⟨r, hp⟩ | hs
    · rw [hc n r (placeholder?_eq_some.2 ⟨hp.symm, hn⟩)] at hv
      cases hv
    · exact List.mem_cons_of_mem _ (ih hs)

end Pieces

def encoded (p : SimpleParameter) : List Char :=
  ("encodeURIComponent(" ++ (argument p).fragment.codec ++ ".toString())").toList

def named? (ps : List SimpleParameter) (n : List Char) : Option SimpleParameter :=
  ps.find? fun p => p.name.toList == n

def placed? (ps : List SimpleParameter) (n : List Char) : Option (List Char) :=
  (ps.find? fun p => p.name.toList == n).map fun p => spliced (encoded p)

/-- A name that stands in braces only where it was written. -/
structure IsPlaceable (name : String) : Prop where
  plain : IsPlainName name.toList
  apart : ¬ "encodeURIComponent(".toList <+: name.toList

instance (name : String) : Decidable (IsPlaceable name) :=
  decidable_of_iff (IsPlainName name.toList ∧ ¬ "encodeURIComponent(".toList <+: name.toList)
    ⟨fun h => ⟨h.1, h.2⟩, fun h => ⟨h.plain, h.apart⟩⟩

theorem isPlaceable_of_isIdentifier {name : String}
    (h : Text.Quoted.isIdentifier name.toList = true) : IsPlaceable name where
  plain := ⟨Text.Quoted.not_mem_of_isIdentifier (by decide) h,
    Text.Quoted.not_mem_of_isIdentifier (by decide) h⟩
  apart hp := by
    have ho : '(' ∉ name.toList := Text.Quoted.not_mem_of_isIdentifier (by decide) h
    exact ho (hp.subset (by decide))

variable {ps qs : List SimpleParameter}

theorem named?_eq_some {n : List Char} {p : SimpleParameter} (h : named? ps n = some p) :
    p ∈ ps ∧ p.name.toList = n :=
  ⟨List.mem_of_find?_eq_some h, by simpa using List.find?_some h⟩

theorem substitute_argument (url : List Char) (p : SimpleParameter) :
    substitute url (argument p) =
      Text.replaceAll (inBraces p.name.toList) (spliced (encoded p)) url := by
  have h :
      ("$\x7bencodeURIComponent(" ++ (argument p).fragment.codec ++ ".toString())\x7d").toList =
      spliced (encoded p) := by
    simp [spliced, inBraces, encoded]
  rw [substitute, h]
  rfl

theorem argument_codec (p : SimpleParameter) :
    (argument p).fragment.codec = (parameterType p.type).codec ++ ".encode(" ++ p.name ++ ")" := rfl

theorem encoded_plain {p : SimpleParameter} (h : IsPlainName p.name.toList) :
    IsPlainName (encoded p) := by
  have hc (t : Api.ParameterType) : IsPlainName (parameterType t).codec.toList := by
    rcases t with (_ | _ | _ | _) | (_ | _ | _ | _) | _ <;> decide
  have hp := hc p.type
  constructor
  · simp [encoded, argument_codec, hp.1, h.1]
  · simp [encoded, argument_codec, hp.2, h.2]

theorem placed?_cons (p : SimpleParameter) (ps : List SimpleParameter) :
    placed? (p :: ps) =
      fun n => if n = p.name.toList then some (spliced (encoded p)) else placed? ps n := by
  funext n
  by_cases h : n = p.name.toList
  · simp [placed?, h]
  · simp [placed?, h, Ne.symm h]

/-- The expressions of the address are no names of parameters. -/
theorem placed?_encoded (h : ∀ q ∈ ps, IsPlaceable q.name) (p : SimpleParameter) :
    placed? ps (encoded p) = none := by
  rw [placed?, Option.map_eq_none_iff, List.find?_eq_none]
  intro q hq he
  apply (h q hq).apart
  rw [beq_iff_eq.1 he, encoded, String.toList_append, String.toList_append, List.append_assoc]
  exact List.prefix_append _ _

theorem foldl_substitute (h : ∀ p ∈ ps, IsPlaceable p.name) (url : List Char) :
    (ps.map argument).foldl substitute url = fill (placed? ps) url := by
  induction ps generalizing url with
  | nil => exact (fill_none url).symm
  | cons p ps ih =>
    obtain ⟨hp, hps⟩ := List.forall_mem_cons.1 h
    rw [List.map_cons, List.foldl_cons, ih hps, substitute_argument, placed?_cons]
    exact fill_replaceAll hp.plain (encoded_plain hp.plain) (placed?_encoded hps p)

/-- The address is the copied letters and the encoded arguments of its pieces between backticks. -/
theorem url_pieces (path : String) (h : ∀ p ∈ ps, IsPlaceable p.name) :
    url path (ps.map argument) =
      "`" ++ String.ofList ((piecesFrom (named? ps) path.toList 0).flatMap
        (Sum.elim (fun c => [c]) fun p => spliced (encoded p))) ++ "`" := by
  rw [url, foldl_substitute h, ← fillFrom_pieces]
  rfl

theorem placed?_perm (h : qs.Perm ps) (hn : (ps.map SimpleParameter.name).Nodup) :
    placed? qs = placed? ps := by
  induction h with
  | nil => rfl
  | cons p _ ih => rw [placed?_cons, placed?_cons, ih hn.of_cons]
  | swap p q ps =>
    have hne : p.name.toList ≠ q.name.toList := by
      intro he
      simp [String.toList_inj.1 he] at hn
    funext n
    simp only [placed?_cons]
    by_cases hp : n = p.name.toList
    · simp [hp, hne]
    · simp [hp]
  | trans h₁ h₂ ih₁ ih₂ => rw [ih₁ ((h₂.map _).nodup_iff.2 hn), ih₂ hn]

/-- The address is one pass over the path: every name of a parameter that stands there in braces
gives way to the encoded argument, the first of that name, and all else is copied. So the order of
parameters with names of their own does not matter. -/
theorem url_fill (path : String) (ps : List SimpleParameter) (h : ∀ p ∈ ps, IsPlaceable p.name) :
    url path (ps.map argument) = "`" ++ String.ofList (fill (placed? ps) path.toList) ++ "`" ∧
      ((ps.map SimpleParameter.name).Nodup →
        ∀ qs : List SimpleParameter, qs.Perm ps →
          url path (qs.map argument) = url path (ps.map argument)) := by
  refine ⟨by rw [url, foldl_substitute h], fun hn qs hq => ?_⟩
  rw [url, url, foldl_substitute h, foldl_substitute fun p hp => h p (hq.subset hp),
    placed?_perm hq hn]

def nestedNames : List SimpleParameter :=
  [⟨"a", none, none, .primitive .string⟩, ⟨"ab", none, none, .array .integer⟩,
    ⟨"", none, none, .primitive .boolean⟩]

theorem url_fill_nestedNames :
    (∀ p ∈ nestedNames, IsPlaceable p.name) ∧ (nestedNames.map SimpleParameter.name).Nodup ∧
      url "/\x7bab\x7d/\x7b\x7b\x7da\x7b\x7ba\x7d/\x7bc\x7d" (nestedNames.map argument) =
        "`/$\x7bencodeURIComponent(t.array(t.number).encode(ab).toString())\x7d" ++
          "/\x7b$\x7bencodeURIComponent(t.boolean.encode().toString())\x7d" ++
          "a\x7b$\x7bencodeURIComponent(t.string.encode(a).toString())\x7d/\x7bc\x7d`" ∧
      url "/\x7ba\x7d\x7bab\x7d" (nestedNames.reverse.map argument) =
        url "/\x7ba\x7d\x7bab\x7d" (nestedNames.map argument) := by
  have h : ∀ p ∈ nestedNames, IsPlaceable p.name := by decide
  have hn : (nestedNames.map SimpleParameter.name).Nodup := by decide
  refine ⟨h, hn, ?_, (url_fill _ nestedNames h).2 hn _ (List.reverse_perm _)⟩
  rw [(url_fill _ nestedNames h).1]
  decide +kernel

end TypedClient.Code
