import TypedClient.Files.Tree
import TypedClient.Proofs.Files.Path

/-!
Places in a tree. A path names a place by its text alone; working with files finds that place or
fails, and where it succeeds, everything on the way is a directory.
-/

set_option autoImplicit false

namespace TypedClient.Files.FileTree

open Files.Path (segments plain isAbsolute)

def step (dir : Trail) (s : String) : Trail :=
  if s = "." then dir else if s = ".." then dir.dropLast else dir ++ [s]

theorem step_dot (dir : Trail) : step dir "." = dir := rfl

theorem step_up (dir : Trail) : step dir ".." = dir.dropLast := rfl

theorem step_name {s : String} (hd : s ≠ ".") (hu : s ≠ "..") (dir : Trail) :
    step dir s = dir ++ [s] := by
  rw [step, if_neg hd, if_neg hu]

/-- Where steps lead, whatever stands there. -/
def follow (dir : Trail) (ss : List String) : Trail := ss.foldl step dir

theorem follow_cons (dir : Trail) (s : String) (ss : List String) :
    follow dir (s :: ss) = follow (step dir s) ss := rfl

theorem follow_append (dir : Trail) (ss us : List String) :
    follow dir (ss ++ us) = follow (follow dir ss) us := List.foldl_append

theorem follow_concat (dir : Trail) (ss : List String) (s : String) :
    follow dir (ss ++ [s]) = step (follow dir ss) s := follow_append dir ss [s]

theorem follow_eq_append {ss : List String} (h : ".." ∉ ss) (dir : Trail) :
    follow dir ss = dir ++ plain ss := by
  induction ss generalizing dir with
  | nil => exact (List.append_nil dir).symm
  | cons s ss ih =>
    obtain ⟨hu, hss⟩ := List.ne_and_not_mem_of_not_mem_cons h
    rw [follow_cons, ih hss]
    by_cases hs : s = "." <;> simp [step, plain, hs, hu.symm]

/-- The steps from the directory pass the place, or end there. -/
def OnWay (dir : Trail) (ss : List String) (q : Trail) : Prop := ∃ us, us <+: ss ∧ follow dir us = q

section OnWay

variable {dir q : Trail} {s : String} {ss us : List String}

theorem onWay_nil : OnWay dir [] q ↔ dir = q := by
  simp [OnWay, List.prefix_nil, follow]

theorem onWay_cons : OnWay dir (s :: ss) q ↔ dir = q ∨ OnWay (step dir s) ss q := by
  constructor
  · rintro ⟨us, hu, rfl⟩
    cases us with
    | nil => exact .inl rfl
    | cons u us =>
      obtain ⟨rfl, hp⟩ := List.cons_prefix_cons.1 hu
      exact .inr ⟨us, hp, rfl⟩
  · rintro (rfl | ⟨us, hu, rfl⟩)
    · exact ⟨[], List.nil_prefix, rfl⟩
    · exact ⟨s :: us, List.cons_prefix_cons.2 ⟨rfl, hu⟩, rfl⟩

theorem onWay_start : OnWay dir ss dir := ⟨[], List.nil_prefix, rfl⟩

theorem onWay_end : OnWay dir ss (follow dir ss) := ⟨ss, List.prefix_rfl, rfl⟩

theorem onWay_append : OnWay dir (ss ++ us) q ↔ OnWay dir ss q ∨ OnWay (follow dir ss) us q := by
  induction ss generalizing dir with
  | nil =>
    rw [onWay_nil, List.nil_append]
    exact (or_iff_right_of_imp fun he => he ▸ onWay_start).symm
  | cons s ss ih => rw [List.cons_append, onWay_cons, onWay_cons, ih, or_assoc, follow_cons]

theorem onWay_concat : OnWay dir (ss ++ [s]) q ↔ OnWay dir ss q ∨ step (follow dir ss) s = q := by
  rw [onWay_append, onWay_cons, onWay_nil, ← or_assoc]
  exact or_congr_left (or_iff_left_of_imp fun he => he ▸ onWay_end)

theorem onWay_plain : OnWay dir (plain ss) q ↔ OnWay dir ss q := by
  induction ss generalizing dir with
  | nil => exact Iff.rfl
  | cons s ss ih =>
    by_cases hs : s = "."
    · subst hs
      have hp : plain ("." :: ss) = plain ss := by simp [plain]
      rw [hp, ih, onWay_cons, step_dot]
      exact (or_iff_right_of_imp fun he => he ▸ onWay_start).symm
    · rw [show plain (s :: ss) = s :: plain ss by simp [plain, hs], onWay_cons, onWay_cons, ih]

end OnWay

variable (t : FileTree)

def start (absolute : Bool) : Trail := if absolute then [] else t.here

def place (path : String) : Trail := follow (t.start (isAbsolute path)) (segments path)

variable {t}

theorem get?_start (absolute : Bool) : t.get? (t.start absolute) = some .directory := by
  cases absolute with
  | false => exact t.standing
  | true => rfl

theorem get?_dropLast {p : Trail} (h : t.get? p = some .directory) :
    t.get? p.dropLast = some .directory := by
  rcases List.eq_nil_or_concat p with rfl | ⟨q, name, rfl⟩
  · exact h
  · rw [List.concat_eq_append] at h ⊢
    rw [List.dropLast_concat]
    exact t.rooted q name (Option.isSome_of_eq_some h)

/-- Everything on the way from the directory is a directory. -/
def Open (t : FileTree) (dir : Trail) (ss : List String) : Prop :=
  ∀ q, OnWay dir ss q → t.get? q = some .directory

theorem open_nil {dir : Trail} (h : t.get? dir = some .directory) : t.Open dir [] :=
  fun _ hq => onWay_nil.1 hq ▸ h

theorem open_cons {dir : Trail} {s : String} {ss : List String} (h : t.get? dir = some .directory)
    (hs : t.Open (step dir s) ss) : t.Open dir (s :: ss) := fun q hq =>
  (onWay_cons.1 hq).elim (fun he => he ▸ h) (hs q)

theorem open_concat {dir : Trail} {s : String} {ss : List String} (h : t.Open dir ss)
    (hs : t.get? (step (follow dir ss) s) = some .directory) : t.Open dir (ss ++ [s]) := fun q hq =>
  (onWay_concat.1 hq).elim (h q) fun he => he ▸ hs

theorem descend_cons {dir p : Trail} {s : String} {ss : List String}
    (hd : t.get? dir = some .directory) (h : t.descend dir (s :: ss) = .ok p) :
    t.get? (step dir s) = some .directory ∧ t.descend (step dir s) ss = .ok p := by
  rw [descend] at h
  split at h
  · next hs => exact hs ▸ ⟨hd, h⟩
  · next hs =>
    split at h
    · next hu => exact hu ▸ ⟨get?_dropLast hd, h⟩
    · next hu =>
      rw [step_name hs hu]
      split at h
      · cases h
      · split at h
        · cases h
        · next hn => exact ⟨hn, h⟩
        · cases h

theorem descend_ok {dir p : Trail} {ss : List String} (hd : t.get? dir = some .directory)
    (h : t.descend dir ss = .ok p) : p = follow dir ss ∧ t.Open dir ss := by
  induction ss generalizing dir with
  | nil =>
    cases h
    exact ⟨rfl, open_nil hd⟩
  | cons s ss ih =>
    obtain ⟨hs, h⟩ := descend_cons hd h
    obtain ⟨hp, ho⟩ := ih hs h
    exact ⟨hp, open_cons hd ho⟩

def lastStep (dir : Trail) (s : String) : Target :=
  if s = "." then .directory dir else if s = ".." then .directory dir.dropLast else .name dir s

theorem target_concat {path s : String} {ss : List String} (hc : checkPath path = .ok ())
    (h : segments path = ss ++ [s]) :
    t.target path =
      (t.descend (t.start (isAbsolute path)) ss).map fun dir => lastStep dir s := by
  simp only [target, hc, h, List.getLast?_concat, List.dropLast_concat]
  change (t.descend (t.start (isAbsolute path)) ss >>= _) = _
  cases t.descend (t.start (isAbsolute path)) ss with
  | error e => rfl
  | ok dir =>
    change (if s = "." then _ else if s = ".." then _ else _) = Except.ok (lastStep dir s)
    unfold lastStep
    split
    · rfl
    · split <;> rfl

theorem target_nil {path : String} (hc : checkPath path = .ok ()) (h : segments path = []) :
    t.target path = .ok (.directory (t.start (isAbsolute path))) := by
  simp only [target, hc, h, List.getLast?_nil]
  rfl

theorem checkPath_of_target {path : String} {g : Target} (h : t.target path = .ok g) :
    checkPath path = .ok () := by
  unfold target at h
  cases hc : checkPath path with
  | error e => rw [hc] at h; cases h
  | ok _ => rfl

/-- What a path leads to stands at its place, and everything on the way there is a directory. -/
theorem target_ok {path : String} {g : Target} (h : t.target path = .ok g) :
    (g = .directory (t.place path) ∧ t.Open (t.start (isAbsolute path)) (segments path)) ∨
      ∃ ss dir name, g = .name dir name ∧ segments path = ss ++ [name] ∧
        t.place path = dir ++ [name] ∧ t.Open (t.start (isAbsolute path)) ss := by
  have hc := checkPath_of_target h
  unfold place
  rcases List.eq_nil_or_concat (segments path) with hs | ⟨ss, s, hs⟩
  · rw [target_nil hc hs] at h
    cases h
    rw [hs]
    exact .inl ⟨rfl, open_nil (get?_start _)⟩
  · rw [List.concat_eq_append] at hs
    rw [target_concat hc hs] at h
    cases hd : t.descend (t.start (isAbsolute path)) ss with
    | error e => rw [hd] at h; cases h
    | ok dir =>
      rw [hd] at h
      cases h
      obtain ⟨rfl, ho⟩ := descend_ok (get?_start _) hd
      rw [hs, follow_concat]
      have hdir := ho _ onWay_end
      by_cases h1 : s = "."
      · subst h1
        exact .inl ⟨rfl, open_concat ho hdir⟩
      by_cases h2 : s = ".."
      · subst h2
        exact .inl ⟨rfl, open_concat ho (get?_dropLast hdir)⟩
      · simp only [lastStep, if_neg h1, if_neg h2, step_name h1 h2]
        exact .inr ⟨ss, _, s, rfl, rfl, rfl, ho⟩

/-- Nothing has changed but that directories stand at some of the places, where nothing stood. -/
structure Grows (places : Trail → Prop) (t t' : FileTree) : Prop where
  here : t'.here = t.here
  get : ∀ q, t'.get? q = t.get? q ∨ (places q ∧ t.get? q = none ∧ t'.get? q = some .directory)

namespace Grows

variable {places places' : Trail → Prop} {t' t'' : FileTree}

theorem refl (places : Trail → Prop) (t : FileTree) : Grows places t t := ⟨rfl, fun _ => .inl rfl⟩

theorem trans (h : Grows places t t') (h' : Grows places t' t'') : Grows places t t'' := by
  refine ⟨h'.here.trans h.here, fun q => ?_⟩
  rcases h.get q with hq | ⟨hp, hn, hq⟩ <;> rcases h'.get q with hq' | ⟨hp', hn', hq'⟩
  · exact .inl (hq'.trans hq)
  · exact .inr ⟨hp', hq ▸ hn', hq'⟩
  · exact .inr ⟨hp, hn, hq'.trans hq⟩
  · exact .inr ⟨hp, hn, hq'⟩

theorem mono (h : Grows places t t') (hp : ∀ q, places q → places' q) : Grows places' t t' :=
  ⟨h.here, fun q => (h.get q).imp_right fun hq => ⟨hp q hq.1, hq.2⟩⟩

theorem start (h : Grows places t t') (absolute : Bool) : t'.start absolute = t.start absolute := by
  cases absolute with
  | false => exact h.here
  | true => rfl

theorem get?_of_isSome (h : Grows places t t') {q : Trail} (hq : (t.get? q).isSome) :
    t'.get? q = t.get? q :=
  (h.get q).resolve_right fun ⟨_, hn, _⟩ => by simp [hn] at hq

theorem stays_open (h : Grows places t t') {dir : Trail} {ss : List String} (ho : t.Open dir ss) :
    t'.Open dir ss := fun q hq => by
  rw [h.get?_of_isSome (by rw [ho q hq]; rfl), ho q hq]

end Grows

theorem putFile_ok {t' : FileTree} {dir : Trail} {name : String} {e : Entry}
    (h : t.putFile dir name e = .ok t') :
    t'.here = t.here ∧ t.get? (dir ++ [name]) ≠ some .directory ∧
      ∀ q, t'.get? q = if dir ++ [name] = q then some e else t.get? q := by
  unfold putFile at h
  split at h
  · split at h
    · next free =>
      cases h
      exact ⟨rfl, free, get?_put _ _ _ _ _ _⟩
    · cases h
  · cases h

theorem ensureDirectory_ok {t' : FileTree} {path : String} (h : t.ensureDirectory path = .ok t') :
    Grows (· = t.place path) t t' ∧ t'.Open (t.start (isAbsolute path)) (segments path) := by
  unfold ensureDirectory at h
  cases hg : t.target path with
  | error e => rw [hg] at h; cases h
  | ok g =>
    rw [hg] at h
    rcases target_ok hg with ⟨rfl, ho⟩ | ⟨ss, dir, name, rfl, hs, hp, ho⟩
    · cases h
      exact ⟨.refl _ t, ho⟩
    · change (if isLong name = true then _ else _) = _ at h
      have hplace : dir ++ [name] = step (follow (t.start (isAbsolute path)) ss) name := by
        rw [← hp, place, hs, follow_concat]
      rw [hs, hp]
      split at h
      · cases h
      · split at h
        · next hn =>
          obtain ⟨hh, -, hq⟩ := putFile_ok h
          have hgrows : Grows (· = dir ++ [name]) t t' := by
            refine ⟨hh, fun q => ?_⟩
            rw [hq]
            by_cases he : dir ++ [name] = q
            · subst he
              exact .inr ⟨rfl, hn, if_pos rfl⟩
            · exact .inl (if_neg he)
          exact ⟨hgrows, open_concat (hgrows.stays_open ho) (by rw [← hplace, hq, if_pos rfl])⟩
        · next hn =>
          cases h
          exact ⟨.refl _ t, open_concat ho (hplace ▸ hn)⟩
        · cases h

/-- A file is put at its place, in the place of nothing or of another file. -/
theorem writeEntry_ok {t' : FileTree} {path : String} {e : Entry}
    (h : t.writeEntry path e = .ok t') :
    t'.here = t.here ∧ t.get? (t.place path) ≠ some .directory ∧
      ∀ q, t'.get? q = if t.place path = q then some e else t.get? q := by
  unfold writeEntry at h
  cases hg : t.target path with
  | error e => rw [hg] at h; cases h
  | ok g =>
    rw [hg] at h
    rcases target_ok hg with ⟨rfl, ho⟩ | ⟨ss, dir, name, rfl, hs, hp, ho⟩
    · cases h
    · change (if Path.endsInSlash path = true then _ else _) = _ at h
      rw [hp]
      split at h
      · cases h
      · split at h
        · cases h
        · exact putFile_ok h

end TypedClient.Files.FileTree
