import TypedClient.Files.Path

set_option autoImplicit false

namespace TypedClient

namespace Text

theorem pieces_ne_nil (m : Char) (s : List Char) : pieces m s ≠ [] := by
  cases s with
  | nil => simp [pieces]
  | cons c s =>
    rw [pieces]
    split
    · simp
    · split <;> simp

theorem pieces_append (m : Char) (s t : List Char) :
    pieces m (s ++ m :: t) = pieces m s ++ pieces m t := by
  induction s with
  | nil => simp [pieces]
  | cons c s ih =>
    obtain ⟨p, ps, hp⟩ := List.exists_cons_of_ne_nil (pieces_ne_nil m s)
    by_cases hc : c = m <;> simp [pieces, hc, ih, hp]

theorem pieces_of_not_mem {m : Char} {s : List Char} (h : m ∉ s) : pieces m s = [s] := by
  induction s with
  | nil => rfl
  | cons c s ih =>
    obtain ⟨hc, hs⟩ := List.ne_and_not_mem_of_not_mem_cons h
    simp [pieces, hc.symm, ih hs]

theorem not_mem_of_mem_pieces {m : Char} {s p : List Char} (h : p ∈ pieces m s) : m ∉ p := by
  induction s generalizing p with
  | nil => simp_all [pieces]
  | cons c s ih =>
    obtain ⟨q, qs, hq⟩ := List.exists_cons_of_ne_nil (pieces_ne_nil m s)
    rw [hq] at ih
    by_cases hc : c = m
    · simp only [pieces, hc, if_true, hq, List.mem_cons] at h
      rcases h with rfl | h
      · exact List.not_mem_nil
      · exact ih (List.mem_cons.2 h)
    · simp only [pieces, hc, if_false, hq, List.mem_cons] at h
      rcases h with rfl | h
      · simp [ih List.mem_cons_self, Ne.symm hc]
      · exact ih (List.mem_cons_of_mem q h)

theorem subset_of_mem_pieces {m : Char} {s p : List Char} (h : p ∈ pieces m s) : p ⊆ s := by
  induction s generalizing p with
  | nil => simp_all [pieces]
  | cons c s ih =>
    obtain ⟨q, qs, hq⟩ := List.exists_cons_of_ne_nil (pieces_ne_nil m s)
    rw [hq] at ih
    by_cases hc : c = m
    · simp only [pieces, hc, if_true, hq, List.mem_cons] at h
      rcases h with rfl | h
      · exact List.nil_subset _
      · exact List.subset_cons_of_subset c (ih (List.mem_cons.2 h))
    · simp only [pieces, hc, if_false, hq, List.mem_cons] at h
      rcases h with rfl | h
      · exact List.cons_subset_cons c (ih List.mem_cons_self)
      · exact List.subset_cons_of_subset c (ih (List.mem_cons_of_mem q h))

end Text

namespace Files.Path

def IsName (s : String) : Prop := s ≠ "" ∧ '/' ∉ s.toList

instance (s : String) : Decidable (IsName s) := inferInstanceAs (Decidable (_ ∧ _))

theorem isName_of_mem_segments {path s : String} (h : s ∈ segments path) : IsName s := by
  obtain ⟨p, hp, rfl⟩ := List.mem_map.1 h
  obtain ⟨hp, hne⟩ := List.mem_filter.1 hp
  refine ⟨?_, by simpa using Text.not_mem_of_mem_pieces hp⟩
  rintro he
  simp [String.ofList_eq_empty_iff] at he
  simp [he] at hne

theorem subset_of_mem_segments {path s : String} (h : s ∈ segments path) :
    s.toList ⊆ path.toList := by
  obtain ⟨p, hp, rfl⟩ := List.mem_map.1 h
  rw [String.toList_ofList]
  exact Text.subset_of_mem_pieces (List.mem_filter.1 hp).1

theorem segments_of_isName {s : String} (h : IsName s) : segments s = [s] := by
  have hne : s.toList ≠ [] := by simpa using h.1
  rw [segments, Text.pieces_of_not_mem h.2]
  simp [hne]

theorem segments_slash (a b : String) : segments (a ++ "/" ++ b) = segments a ++ segments b := by
  have h : (a ++ "/" ++ b).toList = a.toList ++ '/' :: b.toList := by simp
  rw [segments, h, Text.pieces_append, List.filter_append, List.map_append]
  rfl

theorem segments_join {base path : String} (h : isAbsolute path = false) :
    segments (join base path) = segments base ++ segments path := by
  unfold join
  rw [if_neg (by simp [h])]
  split
  case isFalse => exact segments_slash base path
  case isTrue hb =>
    by_cases he : base = ""
    · subst he
      simp [segments, Text.pieces]
    · -- The base ends in a slash, which parts it from the path just as well.
      have hs : endsInSlash base = true := by simpa [he] using hb
      obtain ⟨a, rfl⟩ : ∃ a, base = a ++ "/" ++ "" := by
        obtain ⟨l, hl⟩ := List.getLast?_eq_some_iff.1 (beq_iff_eq.1 hs)
        exact ⟨String.ofList l, by rw [← String.toList_inj]; simp [hl]⟩
      rw [segments_slash, String.append_empty, segments_slash]
      simp [segments, Text.pieces]

theorem isAbsolute_join {base path : String} (h : isAbsolute path = false) :
    isAbsolute (join base path) = isAbsolute base := by
  unfold join
  rw [if_neg (by simp [h])]
  by_cases he : base = ""
  · subst he
    exact h
  · obtain ⟨c, s, hs⟩ := List.exists_cons_of_ne_nil (l := base.toList) (by simpa using he)
    split <;> simp [isAbsolute, hs]

/-- All that a step counts for, but for the dots. -/
def plain (ss : List String) : List String := ss.filter (· ≠ ".")

theorem plain_append (ss ts : List String) : plain (ss ++ ts) = plain ss ++ plain ts :=
  List.filter_append ..

theorem components_cases (path : String) :
    (segments path = [] ∧ components path = []) ∨
      (∃ ss, segments path = "." :: ss ∧ isAbsolute path = true ∧ components path = plain ss) ∨
      ∃ s ss, segments path = s :: ss ∧ ¬ (s = "." ∧ isAbsolute path = true) ∧
        components path = s :: plain ss := by
  unfold components
  cases hs : segments path with
  | nil => exact .inl ⟨rfl, rfl⟩
  | cons s ss =>
    by_cases hd : s = "." ∧ isAbsolute path = true
    · obtain ⟨rfl, ha⟩ := hd
      exact .inr (.inl ⟨ss, rfl, ha, by simp [ha, plain]⟩)
    · exact .inr (.inr ⟨s, ss, rfl, hd, by simp [hd, plain]⟩)

theorem plain_plain (ss : List String) : plain (plain ss) = plain ss := by
  simp [plain, List.filter_filter]

theorem plain_cons_plain (s : String) (ss : List String) :
    plain (s :: plain ss) = plain (s :: ss) := by
  rw [← List.singleton_append, plain_append, plain_plain, ← plain_append, List.singleton_append]

theorem plain_components (path : String) : plain (components path) = plain (segments path) := by
  rcases components_cases path with ⟨hs, hc⟩ | ⟨ss, hs, -, hc⟩ | ⟨s, ss, hs, -, hc⟩
  · rw [hs, hc]
  · rw [hs, hc, plain_plain]
    simp [plain]
  · rw [hs, hc, plain_cons_plain]

theorem components_concat {path s : String} {ss : List String} (h : segments path = ss ++ [s])
    (hs : s ≠ ".") : ∃ us, components path = us ++ [s] ∧ plain us = plain ss := by
  have hp (us : List String) : plain (us ++ [s]) = plain us ++ [s] := by simp [plain, hs]
  rcases components_cases path with ⟨he, -⟩ | ⟨us, he, -, hc⟩ | ⟨u, us, he, -, hc⟩
  · simp [he] at h
  · cases ss with
    | nil => exact absurd (List.cons.inj (he.symm.trans h)).1.symm hs
    | cons v ss =>
      obtain ⟨rfl, rfl⟩ := List.cons.inj (he.symm.trans h)
      exact ⟨plain ss, hc.trans (hp ss), plain_plain ss⟩
  · cases ss with
    | nil =>
      obtain ⟨rfl, rfl⟩ := List.cons.inj (he.symm.trans h)
      exact ⟨[], hc, rfl⟩
    | cons v ss =>
      obtain ⟨rfl, rfl⟩ := List.cons.inj (he.symm.trans h)
      exact ⟨u :: plain ss, hc.trans (congrArg (u :: ·) (hp ss)), plain_cons_plain u ss⟩

theorem components_sublist (path : String) : (components path).Sublist (segments path) := by
  rcases components_cases path with ⟨hs, hc⟩ | ⟨ss, hs, -, hc⟩ | ⟨s, ss, hs, -, hc⟩
  · simp [hs, hc]
  · rw [hs, hc]
    exact List.filter_sublist.cons "."
  · rw [hs, hc]
    exact List.filter_sublist.cons_cons s

theorem isName_of_mem_components {path s : String} (h : s ∈ components path) : IsName s :=
  isName_of_mem_segments ((components_sublist path).subset h)

/-- A path without dots goes on from where the base leads. -/
theorem components_join {base path : String} (ha : isAbsolute path = false)
    (hd : "." ∉ segments path) :
    components (join base path) = components base ++ segments path := by
  have hp : plain (segments path) = segments path :=
    List.filter_eq_self.2 fun s hs => by simpa using fun he : s = "." => hd (he ▸ hs)
  have hj : segments (join base path) = segments base ++ segments path := segments_join ha
  have hb : isAbsolute (join base path) = isAbsolute base := isAbsolute_join ha
  unfold components
  rw [hj, hb]
  cases segments base with
  | nil =>
    cases hs : segments path with
    | nil => rfl
    | cons s ss =>
      rw [hs] at hd hp
      obtain ⟨hne, -⟩ := List.ne_and_not_mem_of_not_mem_cons hd
      have hp : plain ss = ss := by simpa [plain, hne.symm] using hp
      simpa [hne.symm, plain] using hp
  | cons s ss =>
    change (if _ then plain (ss ++ _) else s :: plain (ss ++ _)) =
      (if _ then plain ss else s :: plain ss) ++ _
    rw [plain_append, hp]
    split <;> rfl

theorem segments_ofComponents (absolute : Bool) {cs : List String} (h : ∀ c ∈ cs, IsName c) :
    segments (ofComponents absolute cs) = cs := by
  have hi : segments ("/".intercalate cs) = cs := by
    induction cs with
    | nil => rfl
    | cons c cs ih =>
      have hc := segments_of_isName (h c List.mem_cons_self)
      have ih := ih fun d hd => h d (List.mem_cons_of_mem c hd)
      cases cs with
      | nil => simpa using hc
      | cons d cs => rw [String.intercalate_cons_cons, segments_slash, hc, ih]; rfl
  cases absolute with
  | false => simpa [ofComponents] using hi
  | true =>
    have hs : ofComponents true cs = "" ++ "/" ++ "/".intercalate cs := by simp [ofComponents]
    rw [hs, segments_slash, hi]
    rfl

theorem isAbsolute_ofComponents (absolute : Bool) {cs : List String} (h : ∀ c ∈ cs, IsName c) :
    isAbsolute (ofComponents absolute cs) = absolute := by
  cases absolute with
  | true => simp [isAbsolute, ofComponents]
  | false =>
    cases cs with
    | nil => rfl
    | cons c cs =>
      obtain ⟨hne, hs⟩ := h c List.mem_cons_self
      obtain ⟨a, as, ha⟩ := List.exists_cons_of_ne_nil (l := c.toList) (by simpa using hne)
      have hn : a ≠ '/' := fun he => hs (by simp [ha, he])
      cases cs <;> simp [isAbsolute, ofComponents, String.intercalate_cons_cons, ha, hn]

theorem ofComponents_cons (c : String) {cs : List String} (h : cs ≠ []) :
    ofComponents false (c :: cs) = c ++ "/" ++ ofComponents false cs := by
  obtain ⟨d, ds, rfl⟩ := List.exists_cons_of_ne_nil h
  simp [ofComponents, String.intercalate_cons_cons]

theorem mem_intercalate {ss : List String} {c : Char} (h : c ∈ ("/".intercalate ss).toList) :
    c = '/' ∨ ∃ s ∈ ss, c ∈ s.toList := by
  induction ss with
  | nil => exact absurd h List.not_mem_nil
  | cons s ss ih =>
    cases ss with
    | nil => exact .inr ⟨s, List.mem_cons_self, by simpa using h⟩
    | cons u us =>
      rw [String.intercalate_cons_cons, String.toList_append, String.toList_append,
        List.mem_append, List.mem_append] at h
      rcases h with (h | h) | h
      · exact .inr ⟨s, List.mem_cons_self, h⟩
      · exact .inl (by simpa using h)
      · exact (ih h).imp_right fun ⟨v, hv, hc⟩ => ⟨v, List.mem_cons_of_mem s hv, hc⟩

theorem mem_ofComponents {absolute : Bool} {cs : List String} {c : Char}
    (h : c ∈ (ofComponents absolute cs).toList) : c = '/' ∨ ∃ s ∈ cs, c ∈ s.toList := by
  rw [ofComponents, String.toList_append, List.mem_append] at h
  refine h.elim (fun h => .inl ?_) mem_intercalate
  cases absolute with
  | false => exact absurd h List.not_mem_nil
  | true => simpa using h

/-- The path begins with a slash, or somewhere between its slashes stand two dots. -/
def Leaves (path : String) : Prop :=
  ['/'] <+: path.toList ∨ ['.', '.'] ∈ Text.pieces '/' path.toList

theorem up_mem_segments {path : String} :
    ".." ∈ segments path ↔ ['.', '.'] ∈ Text.pieces '/' path.toList := by
  simp only [segments, List.mem_map, List.mem_filter]
  constructor
  · rintro ⟨p, ⟨hp, -⟩, he⟩
    have hp' : p = ['.', '.'] := by simpa using congrArg String.toList he
    exact hp' ▸ hp
  · exact fun hp => ⟨_, ⟨hp, rfl⟩, rfl⟩

theorem up_mem_components {path : String} : ".." ∈ components path ↔ ".." ∈ segments path := by
  have h (ss : List String) : ".." ∈ plain ss ↔ ".." ∈ ss := by simp [plain]
  rw [← h (components path), plain_components, h]

theorem isAbsolute_iff {path : String} : isAbsolute path = true ↔ ['/'] <+: path.toList := by
  cases h : path.toList with
  | nil => simp [isAbsolute, h]
  | cons c s =>
    rw [isAbsolute, h, List.cons_prefix_cons]
    simpa using eq_comm

theorem isAbsolute_of_isName {s : String} (h : IsName s) : isAbsolute s = false := by
  rw [← Bool.not_eq_true, isAbsolute_iff]
  exact fun hp => h.2 (hp.subset List.mem_cons_self)

theorem endsInSlash_of_isName {s : String} (h : IsName s) : endsInSlash s = false := by
  rw [endsInSlash, beq_eq_false_iff_ne]
  exact fun he => h.2 (List.mem_of_getLast? he)

theorem join_of_isName {base path : String} (hb : IsName base) (hp : isAbsolute path = false) :
    join base path = base ++ "/" ++ path := by
  rw [join, if_neg (by simp [hp]), if_neg (by simp [hb.1, endsInSlash_of_isName hb])]

theorem isInside_eq_false_iff {path : String} : isInside path = false ↔ Leaves path := by
  rw [Leaves, ← up_mem_segments, ← up_mem_components, ← isAbsolute_iff]
  by_cases h : isAbsolute path <;> simp [isInside, h]

theorem isInside_iff {path : String} :
    isInside path = true ↔ isAbsolute path = false ∧ ".." ∉ segments path := by
  rw [← up_mem_components]
  by_cases h : isAbsolute path <;> simp [isInside, h]
  grind

end Files.Path

end TypedClient
