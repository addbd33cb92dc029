import TypedClient.Proofs.Files.Limits
import TypedClient.Proofs.Files.Writing

set_option autoImplicit false

namespace TypedClient.Files

open Files.Path (segments components plain isAbsolute endsInSlash ofComponents IsName)
open FileTree (OnWay Grows follow step lastStep isLong)

namespace FileTree

variable {t t' : FileTree}

/-- A directory stands at the place, or one can be made there. -/
def Passable (t : FileTree) (q : Trail) : Prop := t.get? q = some .directory ∨ t.get? q = none

/-- From the directory on nothing is in the way. -/
def Clear (t : FileTree) (dir : Trail) (ss : List String) : Prop :=
  ∀ q, OnWay dir ss q → t.Passable q

theorem Grows.stays_passable {places : Trail → Prop} {q : Trail} (h : Grows places t t')
    (hq : t.Passable q) : t'.Passable q := by
  rcases h.get q with he | ⟨-, -, he⟩
  · exact hq.imp he.trans he.trans
  · exact .inl he

section Clear

variable {dir : Trail} {s : String} {ss : List String}

theorem clear_cons (h : t.Clear dir (s :: ss)) : t.Clear (step dir s) ss := fun q hq =>
  h q (onWay_cons.2 (.inr hq))

theorem clear_concat (h : t.Clear dir (ss ++ [s])) :
    t.Clear dir ss ∧ t.Passable (step (follow dir ss) s) :=
  ⟨fun q hq => h q (onWay_concat.2 (.inl hq)), h _ (onWay_concat.2 (.inr rfl))⟩

theorem descend_passable (hd : t.get? dir = some .directory) (hs : isLong s = false)
    (hp : t.Passable (step dir s)) :
    t.descend dir (s :: ss) =
      if t.get? (step dir s) = some .directory then t.descend (step dir s) ss
      else .error .notFound := by
  rw [descend]
  by_cases h1 : s = "."
  · subst h1
    rw [step_dot, if_pos rfl, if_pos hd]
  by_cases h2 : s = ".."
  · subst h2
    rw [step_up, if_neg h1, if_pos rfl, if_pos (get?_dropLast hd)]
  rw [step_name h1 h2] at hp ⊢
  rw [if_neg h1, if_neg h2, if_neg (by simp [hs])]
  rcases hp with hp | hp <;> simp [hp]

theorem descend_clear (hd : t.get? dir = some .directory) (hc : t.Clear dir ss)
    (hn : ∀ s ∈ ss, isLong s = false) :
    t.descend dir ss = .ok (follow dir ss) ∨
      (t.descend dir ss = .error .notFound ∧ ¬ t.Open dir ss) := by
  induction ss generalizing dir with
  | nil => exact .inl rfl
  | cons s ss ih =>
    obtain ⟨hs, hn⟩ := List.forall_mem_cons.1 hn
    have hw : OnWay dir (s :: ss) (step dir s) := onWay_cons.2 (.inr onWay_start)
    rw [descend_passable hd hs (hc _ hw), follow_cons]
    split
    · next hd =>
      refine (ih hd (clear_cons hc) hn).imp_right fun ⟨he, ho⟩ => ⟨he, fun h => ho ?_⟩
      exact fun q hq => h q (onWay_cons.2 (.inr hq))
    · next hd => exact .inr ⟨rfl, fun h => hd (h _ hw)⟩

end Clear

section Target

variable {path s : String} {ss : List String}

theorem target_clear (hk : checkPath path = .ok ()) (hs : segments path = ss ++ [s])
    (hc : t.Clear (t.start (isAbsolute path)) ss) (hn : ∀ s ∈ ss, isLong s = false) :
    (t.target path = .ok (lastStep (follow (t.start (isAbsolute path)) ss) s) ∧
        t.Open (t.start (isAbsolute path)) ss) ∨
      (t.target path = .error .notFound ∧ ¬ t.Open (t.start (isAbsolute path)) ss) := by
  rw [target_concat hk hs]
  refine (descend_clear (get?_start _) hc hn).imp (fun h => ⟨?_, ?_⟩) fun ⟨h, ho⟩ => ⟨?_, ho⟩
  · rw [h]
    rfl
  · exact (descend_ok (get?_start _) h).2
  · rw [h]
    rfl

theorem putFile_isOk {dir : Trail} {name : String} (e : Entry) (hd : t.get? dir = some .directory)
    (hf : t.get? (dir ++ [name]) ≠ some .directory) : ∃ t', t.putFile dir name e = .ok t' := by
  rw [putFile, dif_pos hd, dif_pos hf]
  exact ⟨_, rfl⟩

/-- A directory is made, or stands there; if not, one on the way to it is missing. -/
theorem ensureDirectory_clear (hk : checkPath path = .ok ()) (hs : segments path = ss ++ [s])
    (hc : t.Clear (t.start (isAbsolute path)) (ss ++ [s]))
    (hn : ∀ u ∈ ss ++ [s], isLong u = false) :
    (∃ t', t.ensureDirectory path = .ok t') ∨
      (t.ensureDirectory path = .error .notFound ∧ ¬ t.Open (t.start (isAbsolute path)) ss) := by
  obtain ⟨hc, hp⟩ := clear_concat hc
  obtain ⟨hn, hl⟩ := List.forall_mem_append.1 hn
  have hl : isLong s = false := hl s List.mem_cons_self
  unfold ensureDirectory
  rcases target_clear hk hs hc hn with ⟨h, ho⟩ | ⟨h, ho⟩
  · left
    rw [h]
    by_cases h1 : s = "."
    · exact ⟨t, by rw [h1]; rfl⟩
    by_cases h2 : s = ".."
    · exact ⟨t, by rw [h2]; rfl⟩
    rw [step_name h1 h2] at hp
    rw [lastStep, if_neg h1, if_neg h2]
    change ∃ t', (if isLong s = true then _ else _) = _
    rw [if_neg (by simp [hl])]
    rcases hp with hp | hp
    · exact ⟨t, by rw [hp]⟩
    · rw [hp]
      exact putFile_isOk _ (ho _ onWay_end) (by simp [hp])
  · rw [h]
    exact .inr ⟨rfl, ho⟩

theorem writeEntry_open (e : Entry) (hk : checkPath path = .ok ()) (hs : segments path = ss ++ [s])
    (hd : s ≠ "." ∧ s ≠ "..") (he : endsInSlash path = false)
    (ho : t.Open (t.start (isAbsolute path)) ss) (hn : ∀ u ∈ ss ++ [s], isLong u = false)
    (hf : t.get? (t.place path) ≠ some .directory) : ∃ t', t.writeEntry path e = .ok t' := by
  obtain ⟨hn, hl⟩ := List.forall_mem_append.1 hn
  have hl : isLong s = false := hl s List.mem_cons_self
  obtain ⟨h, -⟩ := (target_clear hk hs (fun q hq => .inl (ho q hq)) hn).resolve_right fun h => h.2 ho
  rw [place, hs, follow_concat, step_name hd.1 hd.2] at hf
  unfold writeEntry
  rw [h, lastStep, if_neg hd.1, if_neg hd.2]
  change ∃ t', (if endsInSlash path = true then _ else _) = _
  rw [if_neg (by simp [he]), if_neg (by simp [hl])]
  exact putFile_isOk _ (ho _ onWay_end) hf

end Target

end FileTree

variable {t : FileTree} {path content : String}

theorem run_ensureDirectory_clear {s : String} {ss : List String} (hf : Fits path)
    (hs : segments path = ss ++ [s]) (hc : t.Clear (t.start (isAbsolute path)) (ss ++ [s])) :
    (∃ t', (Access.ensureDirectory path : StateM FileTree _).run t = (.ok (), t')) ∨
      ((Access.ensureDirectory path : StateM FileTree _).run t = (.error .notFound, t) ∧
        ¬ t.Open (t.start (isAbsolute path)) ss) := by
  rw [run_ensureDirectory]
  rcases FileTree.ensureDirectory_clear (hf.checkPath (by simp [hs])) hs hc (hs ▸ hf.names) with
    ⟨t', h⟩ | ⟨h, ho⟩
  · exact .inl ⟨t', by rw [h]⟩
  · exact .inr ⟨by rw [h], ho⟩

theorem ensureSteps_clear (absolute : Bool) {steps : List String} (hn : ∀ s ∈ steps, IsName s)
    (hf : ∀ us, us ≠ [] → us <+: steps.reverse → Fits (ofComponents absolute us))
    (hc : t.Clear (t.start absolute) steps.reverse) :
    ((ensureSteps absolute steps : StateM FileTree _).run t).1 = .ok () := by
  induction steps with
  | nil => rfl
  | cons s outer ih =>
    have hn' : ∀ c ∈ (s :: outer).reverse, IsName c := fun c hc => hn c (List.mem_reverse.1 hc)
    have hfit := hf (s :: outer).reverse (by simp) List.prefix_rfl
    have ha := Path.isAbsolute_ofComponents absolute hn'
    have hs := (Path.segments_ofComponents absolute hn').trans List.reverse_cons
    rw [List.reverse_cons] at hc hf
    rw [ensureSteps]
    generalize ofComponents absolute (s :: outer).reverse = path at hfit ha hs ⊢
    subst ha
    rcases run_ensureDirectory_clear hfit hs hc with ⟨t', h⟩ | ⟨h, -⟩
    · simp only [StateT.run_bind, h]
      rfl
    · have ih := ih (fun u hu => hn u (List.mem_cons_of_mem s hu))
        (fun us hne hp => hf us hne (hp.trans (List.prefix_append _ _)))
        (FileTree.clear_concat hc).1
      obtain ⟨t₁, h₁⟩ : ∃ t₁, (ensureSteps (isAbsolute path) outer : StateM FileTree _).run t =
        (.ok (), t₁) := ⟨_, Prod.ext ih rfl⟩
      obtain ⟨hg, ho⟩ := ensureSteps_spec _ (fun u hu => hn u (List.mem_cons_of_mem s hu)) h₁
      -- Now everything around the directory is there.
      have hc₁ : t₁.Clear (t₁.start (isAbsolute path)) (outer.reverse ++ [s]) := by
        rw [hg.start]
        exact fun q hq => hg.stays_passable (hc q hq)
      obtain ⟨t₂, h₂⟩ := (run_ensureDirectory_clear hfit hs hc₁).resolve_right fun h =>
        h.2 (hg.start _ ▸ ho rfl)
      simp only [StateT.run_bind, h]
      change (((ensureSteps (isAbsolute path) outer : StateM FileTree _) >>= _).run t).1 = _
      rw [StateT.run_bind, h₁]
      exact congrArg Prod.fst h₂

/-- A file can be written that stands nowhere on the way to itself. -/
theorem writeInto_clear {s : String} {ss : List String} (hf : Fits path)
    (hs : segments path = ss ++ [s]) (hd : s ≠ "." ∧ s ≠ "..") (he : endsInSlash path = false)
    (hc : t.Clear (t.start (isAbsolute path)) ss)
    (hw : ¬ OnWay (t.start (isAbsolute path)) ss (t.place path))
    (hp : t.get? (t.place path) ≠ some .directory) :
    ∃ t', (writeInto path content : StateM FileTree _).run t = (.ok (), t') := by
  obtain ⟨us, hus, hpl⟩ := Path.components_concat hs hd.1
  have hway {q : Trail} : OnWay (t.start (isAbsolute path)) us q ↔
      OnWay (t.start (isAbsolute path)) ss q := by
    rw [← FileTree.onWay_plain, hpl, FileTree.onWay_plain]
  have hok : ((ensureParent path : StateM FileTree _).run t).1 = .ok () := by
    rw [ensureParent, hus, List.dropLast_concat]
    have hsub : us <+: components path := hus ▸ List.prefix_append _ _
    refine ensureSteps_clear _ (fun u hu => ?_) (fun vs hne hv => ?_) fun q hq => ?_
    · exact Path.isName_of_mem_components (hsub.subset (List.mem_reverse.1 hu))
    · rw [List.reverse_reverse] at hv
      exact hf.ofComponents (hv.trans hsub).sublist hne
    · rw [List.reverse_reverse] at hq
      exact hc q (hway.1 hq)
  obtain ⟨t₁, h₁⟩ : ∃ t₁, (ensureParent path : StateM FileTree _).run t = (.ok (), t₁) :=
    ⟨_, Prod.ext hok rfl⟩
  obtain ⟨hg, ho⟩ := ensureParent_spec h₁
  rw [hus, List.dropLast_concat] at ho
  have hplace : t₁.place path = t.place path := by rw [FileTree.place, hg.start, FileTree.place]
  have hfree : t₁.get? (t₁.place path) ≠ some .directory := by
    rw [hplace]
    rcases hg.get (t.place path) with h | ⟨h, -, -⟩
    · rwa [h]
    · rw [Around, hus, List.dropLast_concat] at h
      exact absurd (hway.1 h) hw
  obtain ⟨t₂, h₂⟩ := FileTree.writeEntry_open (t := t₁) (.text content) (hf.checkPath (by simp [hs]))
    hs hd he (by rw [hg.start]; exact fun q hq => ho rfl q (hway.2 hq)) (hs ▸ hf.names) hfree
  refine ⟨t₂, ?_⟩
  rw [writeInto, StateT.run_bind, h₁]
  change (Access.write path content : StateM FileTree _).run t₁ = _
  rw [run_write, h₂]

end TypedClient.Files
