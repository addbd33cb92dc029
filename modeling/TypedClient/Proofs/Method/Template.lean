import TypedClient.Proofs.Method.Address

/-!
The address read as the template literal that it is written as. A path is copied as it stands, so
the reader finds its letters and the arguments in their places exactly when no letter of the path
says anything to the reader, and all that opens like an argument is one.
-/

set_option autoImplicit false

namespace TypedClient.Code

open Api (SimpleParameter)

/-- The expression up to the brace that closes it, `depth` braces being open inside, and the text
after that brace. -/
def interpolation? : Nat → List Char → Option (List Char × List Char)
  | _, [] => none
  | depth, c :: s =>
    if c = '\x7d' then
      match depth with
      | 0 => some ([], s)
      | depth + 1 => (interpolation? depth s).map fun (e, r) => (c :: e, r)
    else
      (interpolation? (if c = '\x7b' then depth + 1 else depth) s).map fun (e, r) => (c :: e, r)

/-- Reads letters and expressions up to the first backtick that no backslash escapes, and gives the
text after it; `skipped` characters of an escape or of an expression are still under the reader. The
character after a backslash is read as it stands, also where it would name another one (`\n`). -/
def readFrom : List Char → Nat → Option (List (Char ⊕ List Char) × List Char)
  | [], _ => none
  | _ :: s, skipped + 1 => readFrom s skipped
  | c :: s, 0 =>
    if c = '`' then some ([], s)
    else if c = '\\' then
      match s.head? with
      | none => none
      | some d => (readFrom s 1).map fun (ps, r) => (.inl d :: ps, r)
    else if c = '$' ∧ s.head? = some '\x7b' then
      match interpolation? 0 s.tail with
      | none => none
      | some (e, _) => (readFrom s (e.length + 2)).map fun (ps, r) => (.inr e :: ps, r)
    else (readFrom s 0).map fun (ps, r) => (.inl c :: ps, r)

def readTemplate : List Char → Option (List (Char ⊕ List Char) × List Char)
  | '`' :: s => readFrom s 0
  | _ => none

section Read

theorem map_cons_eq_some {α β : Type} {x : α} {o : Option (List α × β)} {xs : List α} {r : β} :
    (o.map fun (ps, r) => (x :: ps, r)) = some (xs, r) ↔ ∃ ps, o = some (ps, r) ∧ xs = x :: ps := by
  rcases o with _ | ⟨ps, r'⟩ <;> grind

variable {s r e : List Char}

theorem interpolation?_plain (h : IsPlainName e) (s : List Char) :
    interpolation? 0 (e ++ '\x7d' :: s) = some (e, s) := by
  induction e with
  | nil => simp [interpolation?]
  | cons c e ih =>
    have hl := List.ne_of_not_mem_cons h.1
    have hr := List.ne_of_not_mem_cons h.2
    have he : IsPlainName e :=
      ⟨List.not_mem_of_not_mem_cons h.1, List.not_mem_of_not_mem_cons h.2⟩
    simp [interpolation?, Ne.symm hl, Ne.symm hr, ih he]

theorem readFrom_skip (a s : List Char) : readFrom (a ++ s) a.length = readFrom s 0 := by
  induction a with
  | nil => rfl
  | cons c a ih => simpa [readFrom] using ih

theorem readFrom_letter {c : Char} (ht : c ≠ '`') (hb : c ≠ '\\')
    (hd : ¬ (c = '$' ∧ s.head? = some '\x7b')) :
    readFrom (c :: s) 0 = (readFrom s 0).map fun (ps, r) => (.inl c :: ps, r) := by
  rw [readFrom, if_neg ht, if_neg hb, if_neg hd]

theorem readFrom_spliced (h : IsPlainName e) (s : List Char) :
    readFrom (spliced e ++ s) 0 = (readFrom s 0).map fun (ps, r) => (.inr e :: ps, r) := by
  have hi : interpolation? 0 (e ++ ['\x7d'] ++ s) = some (e, s) := by
    simpa using interpolation?_plain h s
  have hs := readFrom_skip (inBraces e) s
  have hl : (inBraces e).length = e.length + 2 := by simp [inBraces]
  rw [hl, inBraces, List.cons_append, List.cons_append] at hs
  rw [spliced, inBraces, List.cons_append, List.cons_append, List.cons_append, readFrom,
    if_neg (by decide), if_neg (by decide), if_pos ⟨rfl, rfl⟩, List.tail_cons, hi]
  simp only [hs]

theorem readFrom_length {skipped : Nat} {ps : List (Char ⊕ List Char)}
    (h : readFrom s skipped = some (ps, r)) :
    (ps.flatMap (Sum.elim (fun c => [c]) spliced)).length + r.length + skipped < s.length := by
  induction s generalizing skipped ps with
  | nil => cases h
  | cons c s ih =>
    cases skipped with
    | succ skipped =>
      have hs := ih h
      rw [List.length_cons]
      omega
    | zero =>
      rw [readFrom] at h
      split at h
      · cases h
        simp
      · split at h
        · split at h
          · cases h
          · obtain ⟨qs, hq, rfl⟩ := map_cons_eq_some.1 h
            have hs := ih hq
            simp only [List.flatMap_cons, Sum.elim_inl, List.length_append, List.length_cons,
              List.length_nil]
            omega
        · split at h
          · split at h
            · cases h
            · obtain ⟨qs, hq, rfl⟩ := map_cons_eq_some.1 h
              have hs := ih hq
              simp only [List.flatMap_cons, Sum.elim_inr, spliced, inBraces, List.length_append,
                List.length_cons, List.length_nil]
              omega
          · obtain ⟨qs, hq, rfl⟩ := map_cons_eq_some.1 h
            have hs := ih hq
            simp only [List.flatMap_cons, Sum.elim_inl, List.length_append, List.length_cons,
              List.length_nil]
            omega

theorem readFrom_backslash {x : Char ⊕ List Char} {ps : List (Char ⊕ List Char)}
    (h : readFrom ('\\' :: s) 0 = some (x :: ps, r)) :
    (ps.flatMap (Sum.elim (fun c => [c]) spliced)).length + r.length + 1 < s.length := by
  rw [readFrom, if_neg (by decide), if_pos rfl] at h
  split at h
  · cases h
  · obtain ⟨qs, hq, he⟩ := map_cons_eq_some.1 h
    cases he
    exact readFrom_length hq

theorem readFrom_opening (hs : s.head? = some '\x7b') {c : Char} {ps : List (Char ⊕ List Char)} :
    readFrom ('$' :: s) 0 ≠ some (.inl c :: ps, r) := by
  intro h
  rw [readFrom, if_neg (by decide), if_neg (by decide), if_pos ⟨rfl, hs⟩] at h
  split at h
  · cases h
  · obtain ⟨qs, -, he⟩ := map_cons_eq_some.1 h
    cases he

end Read

/-- No letter among the pieces closes the literal, escapes another or opens an expression. -/
def IsVerbatim {α : Type} : List (Char ⊕ α) → Prop
  | [] => True
  | .inr _ :: ps => IsVerbatim ps
  | .inl c :: ps =>
    c ≠ '`' ∧ c ≠ '\\' ∧ ¬ (c = '$' ∧ ps.head? = some (.inl '\x7b')) ∧ IsVerbatim ps

section Verbatim

variable {α : Type} (spell : α → List Char)

def written (ps : List (Char ⊕ α)) : List Char :=
  ps.flatMap (Sum.elim (fun c => [c]) fun a => spliced (spell a))

variable {spell}

theorem flatMap_written (ps : List (Char ⊕ α)) :
    (ps.map (Sum.map id spell)).flatMap (Sum.elim (fun c => [c]) spliced) = written spell ps := by
  rw [List.flatMap_map, written]
  congr 1
  funext x
  cases x <;> rfl

/-- Pieces are read back exactly when their letters say nothing to the reader. -/
theorem readFrom_written {ps : List (Char ⊕ α)} (h : ∀ a, .inr a ∈ ps → IsPlainName (spell a))
    (s : List Char) :
    readFrom (written spell ps ++ '`' :: s) 0 = some (ps.map (Sum.map id spell), s) ↔
      IsVerbatim ps := by
  induction ps with
  | nil => simp [written, readFrom, IsVerbatim]
  | cons x ps ih =>
    have ih := ih fun a ha => h a (List.mem_cons_of_mem _ ha)
    cases x with
    | inr a =>
      have hw : written spell (.inr a :: ps) ++ '`' :: s =
          spliced (spell a) ++ (written spell ps ++ '`' :: s) := by
        simp [written]
      rw [hw, readFrom_spliced (h a List.mem_cons_self), IsVerbatim, ← ih]
      simp
    | inl c =>
      have hw : written spell (.inl c :: ps) ++ '`' :: s = c :: (written spell ps ++ '`' :: s) := by
        simp [written]
      have hb : (written spell ps ++ '`' :: s).head? = some '\x7b' ↔
          ps.head? = some (.inl '\x7b') := by
        cases ps with
        | nil => simp [written]
        | cons y ps => cases y <;> simp [written, spliced]
      rw [hw, IsVerbatim, ← hb, ← ih, List.map_cons, Sum.map_inl, id]
      constructor
      · intro hr
        have ht : c ≠ '`' := by
          rintro rfl
          cases hr
        -- An escape would give one letter for two, and no more text stands there than was written.
        have he : c ≠ '\\' := by
          rintro rfl
          have hl := readFrom_backslash hr
          rw [flatMap_written, List.length_append, List.length_cons] at hl
          omega
        have hd : ¬ (c = '$' ∧ (written spell ps ++ '`' :: s).head? = some '\x7b') := by
          rintro ⟨rfl, hs⟩
          exact readFrom_opening hs hr
        rw [readFrom_letter ht he hd, map_cons_eq_some] at hr
        obtain ⟨qs, hq, hqs⟩ := hr
        cases hqs
        exact ⟨ht, he, hd, hq⟩
      · rintro ⟨ht, he, hd, hr⟩
        rw [readFrom_letter ht he hd, hr]
        rfl

end Verbatim

def addressPieces (ps : List SimpleParameter) (path : String) : List (Char ⊕ SimpleParameter) :=
  piecesFrom (named? ps) path.toList 0

/-- A path says nothing to a reader of template literals: it has no backtick and no backslash, and a
brace after a dollar sign is the one before the name of a parameter. -/
structure IsClear (ps : List SimpleParameter) (path : List Char) : Prop where
  backtick : '`' ∉ path
  backslash : '\\' ∉ path
  opening : ∀ u v, path = u ++ '$' :: '\x7b' :: v →
    ∃ p ∈ ps, inBraces p.name.toList <+: '\x7b' :: v

section Clear

variable {ps : List SimpleParameter} {c : Char} {n s : List Char}

theorem isClear_nil : IsClear ps [] :=
  ⟨List.not_mem_nil, List.not_mem_nil, by simp⟩

theorem isClear_cons : IsClear ps (c :: s) ↔ c ≠ '`' ∧ c ≠ '\\' ∧
    (c = '$' → s.head? = some '\x7b' → ∃ p ∈ ps, inBraces p.name.toList <+: s) ∧ IsClear ps s := by
  constructor
  · intro h
    refine ⟨Ne.symm (List.ne_of_not_mem_cons h.backtick),
      Ne.symm (List.ne_of_not_mem_cons h.backslash), ?_,
      List.not_mem_of_not_mem_cons h.backtick, List.not_mem_of_not_mem_cons h.backslash,
      fun u v hu => h.opening (c :: u) v (by rw [hu, List.cons_append])⟩
    rintro rfl hs
    obtain ⟨v, rfl⟩ := List.head?_eq_some_iff.1 hs
    exact h.opening [] v rfl
  · rintro ⟨ht, hb, ho, h⟩
    refine ⟨by simp [Ne.symm ht, h.backtick], by simp [Ne.symm hb, h.backslash], fun u v hu => ?_⟩
    cases u with
    | nil =>
      obtain ⟨rfl, rfl⟩ := List.cons.inj hu
      exact ho rfl rfl
    | cons d u => exact h.opening u v (List.cons.inj hu).2

theorem isClear_closed (hl : '\x7b' ∉ n) (ht : '`' ∉ n) (hb : '\\' ∉ n) :
    IsClear ps (n ++ '\x7d' :: s) ↔ IsClear ps s := by
  induction n with
  | nil => simp [isClear_cons]
  | cons c n ih =>
    have hs : (n ++ '\x7d' :: s).head? ≠ some '\x7b' := by
      intro h
      cases n with
      | nil => simp at h
      | cons d n => simp_all
    rw [List.cons_append, isClear_cons, ih (List.not_mem_of_not_mem_cons hl)
      (List.not_mem_of_not_mem_cons ht) (List.not_mem_of_not_mem_cons hb)]
    exact ⟨fun h => h.2.2.2, fun h => ⟨Ne.symm (List.ne_of_not_mem_cons ht),
      Ne.symm (List.ne_of_not_mem_cons hb), fun _ ho => absurd ho hs, h⟩⟩

theorem isClear_inBraces (h : Text.Quoted.isIdentifier n = true) (s : List Char) :
    IsClear ps (inBraces n ++ s) ↔ IsClear ps s := by
  have hn {d : Char} (hd : Text.Quoted.continues d = false) : d ∉ n :=
    Text.Quoted.not_mem_of_isIdentifier hd h
  have hc : IsClear ps (n ++ '\x7d' :: s) ↔ IsClear ps s :=
    isClear_closed (hn (by decide)) (hn (by decide)) (hn (by decide))
  simpa [inBraces, isClear_cons] using hc

theorem not_prefix_of_copied (hi : ∀ p ∈ ps, IsPlainName p.name.toList)
    (h : ∀ n r, placeholder? (c :: s) = some (n, r) → named? ps n = none) :
    ¬ ∃ p ∈ ps, inBraces p.name.toList <+: c :: s := by
  rintro ⟨p, hp, r, hr⟩
  have hn := h _ _ (placeholder?_eq_some.2 ⟨hr.symm, hi p hp⟩)
  exact List.find?_eq_none.1 hn p hp (beq_iff_eq.2 rfl)

/-- An opening brace is copied where no name of a parameter begins. -/
theorem head?_pieces (hi : ∀ p ∈ ps, IsPlainName p.name.toList) (s : List Char) :
    (piecesFrom (named? ps) s 0).head? = some (.inl '\x7b') ↔
      s.head? = some '\x7b' ∧ ¬ ∃ p ∈ ps, inBraces p.name.toList <+: s := by
  induction s using pieces_induction (named? ps) with
  | nil => simp [piecesFrom]
  | placed n p s hn hv _ =>
    obtain ⟨hp, rfl⟩ := named?_eq_some hv
    rw [pieces_placed hn hv]
    constructor
    · intro h
      cases h
    · exact fun h => absurd ⟨p, hp, List.prefix_append _ _⟩ h.2
  | copied c s h _ =>
    rw [pieces_copied h]
    simp [not_prefix_of_copied hi h]

theorem isVerbatim_pieces (hi : ∀ p ∈ ps, Text.Quoted.isIdentifier p.name.toList = true)
    (s : List Char) : IsVerbatim (piecesFrom (named? ps) s 0) ↔ IsClear ps s := by
  have hn : ∀ p ∈ ps, IsPlainName p.name.toList := fun p hp =>
    (isPlaceable_of_isIdentifier (hi p hp)).plain
  induction s using pieces_induction (named? ps) with
  | nil => exact ⟨fun _ => isClear_nil, fun _ => trivial⟩
  | placed n p s hpn hv ih =>
    obtain ⟨hp, rfl⟩ := named?_eq_some hv
    rw [pieces_placed hpn hv, isClear_inBraces (hi p hp)]
    exact ih
  | copied c s h ih =>
    rw [pieces_copied h, IsVerbatim, isClear_cons, head?_pieces hn]
    refine and_congr_right fun _ => and_congr_right fun _ => and_congr ?_ ih
    rw [not_and, not_and, Classical.not_not]

end Clear

section Url

variable {ps : List SimpleParameter}

theorem pieces_join (s : List Char) :
    (piecesFrom (named? ps) s 0).flatMap
      (Sum.elim (fun c => [c]) fun p => inBraces p.name.toList) = s := by
  induction s using pieces_induction (named? ps) with
  | nil => rfl
  | placed n p s hn hv ih =>
    obtain ⟨-, rfl⟩ := named?_eq_some hv
    rw [pieces_placed hn hv, List.flatMap_cons, ih, Sum.elim_inr]
  | copied c s h ih =>
    rw [pieces_copied h, List.flatMap_cons, ih, Sum.elim_inl, List.singleton_append]

theorem encoded_pieces (hi : ∀ p ∈ ps, IsPlainName p.name.toList) {s : List Char}
    {p : SimpleParameter} (h : .inr p ∈ piecesFrom (named? ps) s 0) : IsPlainName (encoded p) := by
  obtain ⟨n, hv, -⟩ := placed_of_mem h
  exact encoded_plain (hi p (named?_eq_some hv).1)

/-- The address is written as the letters of the path and its encoded arguments between backticks,
and a reader of template literals finds them, each in its place and nothing after them, exactly when
the path is clear. -/
theorem url_template (path : String) (ps : List SimpleParameter)
    (h : ∀ p ∈ ps, Text.Quoted.isIdentifier p.name.toList = true) :
    (addressPieces ps path).flatMap (Sum.elim (fun c => [c]) fun p => inBraces p.name.toList) =
        path.toList ∧
      url path (ps.map argument) =
        "`" ++ String.ofList (written encoded (addressPieces ps path)) ++ "`" ∧
      (readTemplate (url path (ps.map argument)).toList =
          some ((addressPieces ps path).map (Sum.map id encoded), []) ↔
        IsClear ps path.toList) := by
  have hp : ∀ p ∈ ps, IsPlaceable p.name := fun p hp => isPlaceable_of_isIdentifier (h p hp)
  have hu : url path (ps.map argument) =
      "`" ++ String.ofList (written encoded (addressPieces ps path)) ++ "`" := url_pieces path hp
  refine ⟨pieces_join path.toList, hu, ?_⟩
  have hr : readTemplate (url path (ps.map argument)).toList =
      readFrom (written encoded (addressPieces ps path) ++ ['`']) 0 := by
    rw [hu]
    simp [readTemplate]
  rw [hr, ← isVerbatim_pieces h]
  exact readFrom_written (fun p => encoded_pieces fun q hq => (hp q hq).plain) []

def numberedName : List SimpleParameter :=
  [⟨"id", none, some true, .primitive .integer⟩, ⟨"name", none, some true, .primitive .string⟩]

theorem url_template_dollars :
    (∀ p ∈ numberedName, Text.Quoted.isIdentifier p.name.toList = true) ∧
      readTemplate (url "/$\x7bid\x7d\x7b\x7bname\x7d\x7d\x7bx\x7d$"
          (numberedName.map argument)).toList =
        some ([.inl '/', .inl '$', .inr (encoded ⟨"id", none, some true, .primitive .integer⟩),
          .inl '\x7b', .inr (encoded ⟨"name", none, some true, .primitive .string⟩), .inl '\x7d',
          .inl '\x7b', .inl 'x', .inl '\x7d', .inl '$'], []) := by
  have h : ∀ p ∈ numberedName, Text.Quoted.isIdentifier p.name.toList = true := by decide
  refine ⟨h, (url_template _ numberedName h).2.2.2 ?_⟩
  simp [isClear_cons, isClear_nil, numberedName, inBraces]

/-- A backtick of the path ends the address, a backslash takes the next letter with it, and braces
after a dollar sign are read as an expression. -/
theorem not_read_unclear :
    readTemplate (url "/a`b" []).toList = some ([.inl '/', .inl 'a'], ['b', '`']) ∧
      readTemplate (url "/a\\b" []).toList = some ([.inl '/', .inl 'a', .inl 'b'], []) ∧
      readTemplate (url "/a$\x7bb\x7d" []).toList =
        some ([.inl '/', .inl 'a', .inr ['b']], []) := by
  decide

end Url

end TypedClient.Code
