import TypedClient.Proofs.Files.Exactly

/-!
A batch laid over a tree. Files that are written stand at their places with what the batch has last
for them, in directories; all else is as it was. A batch that fails has done what the files before
the failing one do, and made directories for that one at most.
-/

set_option autoImplicit false

namespace TypedClient

theorem Entries.get?_of_not_mem {κ α : Type} [DecidableEq κ] {k : κ} {es : List (κ × α)}
    (h : k ∉ keys es) : get? k es = none :=
  Option.eq_none_iff_forall_ne_some.2 fun _ hv => h (mem_keys_of_get? hv)

theorem Entries.eq_of_keys {κ α : Type} [DecidableEq κ] {es fs : List (κ × α)}
    (hn : (keys es).Nodup) (hk : keys es = keys fs) (hg : ∀ k, get? k es = get? k fs) :
    es = fs := by
  induction es generalizing fs with
  | nil => exact (List.map_eq_nil_iff.1 hk.symm).symm
  | cons e es ih =>
    cases fs with
    | nil => cases hk
    | cons f fs =>
      obtain ⟨k, v⟩ := e
      obtain ⟨k', v'⟩ := f
      obtain ⟨rfl, htail⟩ : k = k' ∧ keys es = keys fs := List.cons.inj hk
      obtain ⟨hm, hn⟩ := List.nodup_cons.1 hn
      have hv : v = v' := by simpa [get?] using hg k
      rw [hv, ih hn htail fun j => ?_]
      by_cases hj : k = j
      · subst hj
        rw [get?_of_not_mem hm, get?_of_not_mem (htail ▸ hm)]
      · simpa [get?, hj] using hg j

namespace Files

open Files.Path (segments components plain isAbsolute endsInSlash IsName)
open FileTree (OnWay Grows follow step lastStep isLong)

/-- The names that a path leads through: dots and repeated slashes do not count. -/
def Path.normal (path : String) : List String := plain (segments path)

/-- The place `q` is around the place `p`. -/
def Above (q p : Trail) : Prop := q <+: p ∧ q ≠ p

section Places

variable {t t' : FileTree} {base path : String} {p q : Trail}

theorem place_normal (hb : ¬ Path.Leaves base) (h : ¬ Path.Leaves path) :
    t.place (Path.join base path) = t.here ++ Path.normal base ++ Path.normal path := by
  obtain ⟨ha, hu⟩ := not_leaves_iff.1 hb
  rw [place_join t h, FileTree.place, FileTree.follow_eq_append hu, ha]
  rfl

/-- What stands at a place has directories around it. -/
theorem Above.directory (h : Above q p) (hp : (t.get? p).isSome) : t.get? q = some .directory := by
  obtain ⟨⟨us, rfl⟩, hne⟩ := h
  obtain ⟨name, us, rfl⟩ := List.exists_cons_of_ne_nil
    (show us ≠ [] from fun he => hne (by rw [he, List.append_nil]))
  rw [List.append_cons] at hp
  refine t.rooted q name (Option.isSome_iff_ne_none.2 fun hn => ?_)
  rw [FileTree.get?_append_of_none hn us] at hp
  cases hp

theorem Path.components_last (path : String) :
    (components path).dropLast = [] ∨ ∃ us s, components path = us ++ [s] ∧ s ≠ "." := by
  have hplain (ss : List String) (h : plain ss ≠ []) :
      ∃ us s, plain ss = us ++ [s] ∧ s ≠ "." := by
    refine ⟨_, _, (List.dropLast_append_getLast h).symm, ?_⟩
    simpa using (List.mem_filter.1 (List.getLast_mem h)).2
  rcases Path.components_cases path with ⟨-, hc⟩ | ⟨ss, -, -, hc⟩ | ⟨s, ss, -, -, hc⟩ <;> rw [hc]
  · exact .inl rfl
  · by_cases hs : plain ss = []
    · exact .inl (by rw [hs]; rfl)
    · exact .inr (hplain ss hs)
  · by_cases hs : plain ss = []
    · exact .inl (by rw [hs]; rfl)
    · obtain ⟨us, u, hu, hd⟩ := hplain ss hs
      exact .inr ⟨s :: us, u, by rw [hu]; rfl, hd⟩

/-- The directories that are missing around a path are above its place. -/
theorem above_of_around (hu : ".." ∉ segments path) (h : Around t path q) (hn : t.get? q = none) :
    Above q (t.place path) := by
  have hc : ".." ∉ components path := fun hm => hu (Path.up_mem_components.1 hm)
  have hplace : t.place path = t.start (isAbsolute path) ++ plain (components path) := by
    rw [FileTree.place, FileTree.follow_eq_append hu, Path.plain_components]
  rcases Path.components_last path with he | ⟨us, s, he, hs⟩
  · rw [Around, he, FileTree.onWay_nil] at h
    rw [← h, FileTree.get?_start] at hn
    cases hn
  · rw [he] at hplace hc
    rw [Around, he, List.dropLast_concat] at h
    have hp := h.isPrefix fun hm => hc (List.mem_append_left _ hm)
    rw [hplace, Path.plain_append, ← List.append_assoc]
    refine ⟨hp.trans (List.prefix_append _ _), ?_⟩
    rintro rfl
    have hl := hp.length_le
    rw [show plain [s] = [s] by simp [plain, hs]] at hl
    exact absurd hl (by simp)

end Places

/-- A file lies at the place and directories around it, in the place of nothing, of a file or of
directories; all else is as it was. -/
structure Lays (p : Trail) (content : String) (t t' : FileTree) : Prop where
  here : t'.here = t.here
  free : t.get? p ≠ some .directory
  way : ∀ q, Above q p → t.Passable q
  file : t'.get? p = some (.text content)
  around : ∀ q, Above q p → t'.get? q = some .directory
  rest : ∀ q, ¬ q <+: p → t'.get? q = t.get? q

section One

variable {t t' : FileTree} {base path content : String}

theorem below_join (hb : ¬ Path.Leaves base) (h : ¬ Path.Leaves path) :
    ".." ∉ segments (Path.join base path) := by
  obtain ⟨ha, hu⟩ := not_leaves_iff.1 h
  rw [Path.segments_join ha, List.mem_append]
  exact not_or.2 ⟨(not_leaves_iff.1 hb).2, hu⟩

theorem writeInto_lays (hu : ".." ∉ segments path)
    (h : (writeInto path content : StateM FileTree _).run t = (.ok (), t')) :
    Lays (t.place path) content t t' := by
  obtain ⟨t₁, hg, hw⟩ := writeInto_spec h
  obtain ⟨-, -, hput⟩ := hw.resolve_left fun hn => hn.1 rfl
  have hfile : t'.get? (t.place path) = some (.text content) := by rw [hput.get, if_pos rfl]
  have hold (q : Trail) (hq : t.place path ≠ q) :
      t'.get? q = t.get? q ∨ (Above q (t.place path) ∧ t.get? q = none) := by
    rw [hput.get, if_neg hq]
    exact (hg.get q).imp_right fun ⟨hn, he, _⟩ => ⟨above_of_around hu hn he, he⟩
  have haround (q : Trail) (hq : Above q (t.place path)) : t'.get? q = some .directory :=
    hq.directory (Option.isSome_of_eq_some hfile)
  refine ⟨hput.here.trans hg.here, fun hd => ?_, fun q hq => ?_, hfile, haround, fun q hq => ?_⟩
  · exact hput.free (by rw [hg.get?_of_isSome (Option.isSome_of_eq_some hd), hd])
  · rcases hold q hq.2.symm with he | ⟨-, he⟩
    · exact .inl (he ▸ haround q hq)
    · exact .inr he
  · rcases hold q fun he => hq (he ▸ List.prefix_rfl) with he | ⟨ha, -⟩
    · exact he
    · exact absurd ha.1 hq

/-- What fails has made directories above the file, and nothing else. -/
theorem writeInto_error {e : FileError} (hu : ".." ∉ segments path)
    (h : (writeInto path content : StateM FileTree _).run t = (.error e, t')) :
    Grows (Above · (t.place path)) t t' := by
  obtain ⟨t₁, hg, hw⟩ := writeInto_spec h
  rcases hw with ⟨-, rfl⟩ | ⟨he, -⟩
  · refine ⟨hg.here, fun q => (hg.get q).imp_right fun ⟨hn, he, hd⟩ => ⟨?_, he, hd⟩⟩
    exact above_of_around hu hn he
  · cases he

end One

/-- The batch lies over the tree: each place has what the batch has last for it. -/
structure Overlaid (dir : Trail) (files : List (String × String)) (t t' : FileTree) : Prop where
  here : t'.here = t.here
  free : ∀ f ∈ files, t.get? (dir ++ Path.normal f.1) ≠ some .directory
  way : ∀ f ∈ files, ∀ q, Above q (dir ++ Path.normal f.1) → t.Passable q
  file : ∀ before f after, files = before ++ f :: after →
    (∀ g ∈ after, Path.normal g.1 ≠ Path.normal f.1) →
      t'.get? (dir ++ Path.normal f.1) = some (.text f.2)
  around : ∀ f ∈ files, ∀ q, Above q (dir ++ Path.normal f.1) → t'.get? q = some .directory
  rest : ∀ q, (∀ f ∈ files, ¬ q <+: dir ++ Path.normal f.1) → t'.get? q = t.get? q

section Batch

variable {t t₁ t' : FileTree} {dir : Trail} {base : String} {f : String × String}
  {files : List (String × String)} {r : Except FileError Unit}

theorem writeEach_cons (h : (writeInto (Path.join base f.1) f.2 : StateM FileTree _).run t =
    (.ok (), t₁)) :
    (writeEach base (f :: files) : StateM FileTree _).run t =
      (writeEach base files : StateM FileTree _).run t₁ := by
  rw [writeEach, StateT.run_bind, h]
  rfl

theorem writeEach_cases (h : (writeEach base (f :: files) : StateM FileTree _).run t = (r, t')) :
    (∃ t₁, (writeInto (Path.join base f.1) f.2 : StateM FileTree _).run t = (.ok (), t₁) ∧
      (writeEach base files : StateM FileTree _).run t₁ = (r, t')) ∨
    ∃ e, r = .error e ∧
      (writeInto (Path.join base f.1) f.2 : StateM FileTree _).run t = (.error e, t') := by
  rw [writeEach] at h
  obtain ⟨r₁, t₁, h₁, h⟩ := exists_of_run_bind h
  split at h
  · exact .inl ⟨t₁, h₁, h⟩
  · cases h
    exact .inr ⟨_, rfl, h₁⟩

theorem writeEach_cons_ok
    (h : (writeEach base (f :: files) : StateM FileTree _).run t = (.ok (), t')) :
    ∃ t₁, (writeInto (Path.join base f.1) f.2 : StateM FileTree _).run t = (.ok (), t₁) ∧
      (writeEach base files : StateM FileTree _).run t₁ = (.ok (), t') := by
  rcases writeEach_cases h with h | ⟨e, he, -⟩
  · exact h
  · cases he

theorem Overlaid.nil (dir : Trail) (t : FileTree) : Overlaid dir [] t t where
  here := rfl
  free := nofun
  way := nofun
  file := fun before f after h => absurd h (by simp)
  around := nofun
  rest := fun _ _ => rfl

theorem Lays.keeps {p q : Trail} {content : String} (h : Lays p content t t')
    (hq : t.get? q = some .directory) : t'.get? q = some .directory := by
  by_cases hp : q <+: p
  · exact h.around q ⟨hp, fun he => h.free (he ▸ hq)⟩
  · rw [h.rest q hp, hq]

theorem Overlaid.keeps {q : Trail} (h : Overlaid dir files t t')
    (hq : t.get? q = some .directory) : t'.get? q = some .directory := by
  by_cases hp : ∃ f ∈ files, q <+: dir ++ Path.normal f.1
  · obtain ⟨f, hf, hp⟩ := hp
    exact h.around f hf q ⟨hp, fun he => h.free f hf (he ▸ hq)⟩
  · rw [h.rest q fun f hf hq => hp ⟨f, hf, hq⟩, hq]

theorem Overlaid.cons (hf : Lays (dir ++ Path.normal f.1) f.2 t t₁)
    (h : Overlaid dir files t₁ t') : Overlaid dir (f :: files) t t' where
  here := h.here.trans hf.here
  free := List.forall_mem_cons.2 ⟨hf.free, fun g hg hd => h.free g hg (hf.keeps hd)⟩
  way := by
    refine List.forall_mem_cons.2 ⟨hf.way, fun g hg q hq => ?_⟩
    by_cases hp : q <+: dir ++ Path.normal f.1
    · by_cases he : q = dir ++ Path.normal f.1
      · rcases h.way g hg q hq with hd | hd <;> rw [he, hf.file] at hd <;> cases hd
      · exact hf.way q ⟨hp, he⟩
    · rw [FileTree.Passable, ← hf.rest q hp]
      exact h.way g hg q hq
  file := by
    intro before g after he hlast
    cases before with
    | cons b before =>
      obtain ⟨-, rfl⟩ := List.cons.inj he
      exact h.file before g after rfl hlast
    | nil =>
      obtain ⟨rfl, rfl⟩ := List.cons.inj he
      rw [h.rest _ fun g hg hp => ?_, hf.file]
      -- A file that stands there by then is not around one that follows.
      have ha : Above (dir ++ Path.normal f.1) (dir ++ Path.normal g.1) :=
        ⟨hp, fun he => hlast g hg (List.append_cancel_left he).symm⟩
      rcases h.way g hg _ ha with hd | hd <;> rw [hf.file] at hd <;> cases hd
  around := List.forall_mem_cons.2 ⟨fun q hq => h.keeps (hf.around q hq), h.around⟩
  rest := by
    intro q hq
    obtain ⟨hqf, hq⟩ := List.forall_mem_cons.1 hq
    rw [h.rest q hq, hf.rest q hqf]

theorem writeEach_overlaid (hb : ¬ Path.Leaves base) (hf : ∀ f ∈ files, ¬ Path.Leaves f.1)
    (h : (writeEach base files : StateM FileTree _).run t = (.ok (), t')) :
    Overlaid (t.here ++ Path.normal base) files t t' := by
  induction files generalizing t with
  | nil =>
    cases h
    exact .nil _ _
  | cons f files ih =>
    obtain ⟨hl, hf⟩ := List.forall_mem_cons.1 hf
    obtain ⟨t₁, h₁, h⟩ := writeEach_cons_ok h
    have hlays := writeInto_lays (below_join hb hl) h₁
    rw [place_normal hb hl] at hlays
    have ih := ih hf h
    rw [hlays.here] at ih
    exact ih.cons hlays

/-- A batch that fails does so at one of its files, after those before it were written. -/
theorem writeEach_error {e : FileError}
    (h : (writeEach base files : StateM FileTree _).run t = (.error e, t')) :
    ∃ before f after t₁, files = before ++ f :: after ∧
      (writeEach base before : StateM FileTree _).run t = (.ok (), t₁) ∧
      (writeInto (Path.join base f.1) f.2 : StateM FileTree _).run t₁ = (.error e, t') := by
  induction files generalizing t with
  | nil => cases h
  | cons f files ih =>
    rcases writeEach_cases h with ⟨t₁, h₁, h⟩ | ⟨e', he, h₁⟩
    · obtain ⟨before, g, after, t₂, rfl, hbefore, hg⟩ := ih h
      exact ⟨f :: before, g, after, t₂, rfl, (writeEach_cons h₁).trans hbefore, hg⟩
    · cases he
      exact ⟨[], f, files, t, rfl, rfl, h₁⟩

theorem writeEach_stops {e : FileError} {before : List (String × String)}
    (hbefore : (writeEach base before : StateM FileTree _).run t = (.ok (), t₁))
    (hf : (writeInto (Path.join base f.1) f.2 : StateM FileTree _).run t₁ = (.error e, t'))
    (later : List (String × String)) :
    (writeEach base (before ++ f :: later) : StateM FileTree _).run t = (.error e, t') := by
  induction before generalizing t with
  | nil =>
    cases hbefore
    rw [List.nil_append, writeEach, StateT.run_bind, hf]
    rfl
  | cons b before ih =>
    obtain ⟨t₂, h₁, h⟩ := writeEach_cons_ok hbefore
    rw [List.cons_append, writeEach_cons h₁]
    exact ih h

end Batch

namespace FileTree

variable {t t' : FileTree}

theorem descend_names {dir p : Trail} {ss : List String} (h : t.descend dir ss = .ok p) :
    ∀ s ∈ ss, isLong s = false := by
  induction ss generalizing dir with
  | nil => exact nofun
  | cons s ss ih =>
    rw [descend] at h
    split at h
    · next hs => exact List.forall_mem_cons.2 ⟨hs ▸ (by decide), ih h⟩
    · split at h
      · next hs => exact List.forall_mem_cons.2 ⟨hs ▸ (by decide), ih h⟩
      · split at h
        · cases h
        · next hs =>
          split at h
          · cases h
          · exact List.forall_mem_cons.2 ⟨Bool.not_eq_true _ ▸ hs, ih h⟩
          · cases h

theorem ensureDirectory_open {path s : String} {ss : List String} (hk : checkPath path = .ok ())
    (hs : segments path = ss ++ [s]) (ho : t.Open (t.start (isAbsolute path)) (ss ++ [s]))
    (hn : ∀ u ∈ ss ++ [s], isLong u = false) : t.ensureDirectory path = .ok t := by
  obtain ⟨hn, hl⟩ := List.forall_mem_append.1 hn
  have hway : t.Open (t.start (isAbsolute path)) ss := fun q hq => ho q (onWay_append.2 (.inl hq))
  have hend := ho _ onWay_end
  obtain ⟨h, -⟩ := (target_clear hk hs (fun q hq => .inl (hway q hq)) hn).resolve_right
    fun h => h.2 hway
  unfold ensureDirectory
  rw [h]
  by_cases h1 : s = "."
  · rw [h1]
    rfl
  by_cases h2 : s = ".."
  · rw [h2]
    rfl
  rw [follow_concat, step_name h1 h2] at hend
  rw [lastStep, if_neg h1, if_neg h2]
  change (if isLong s = true then _ else _) = _
  rw [if_neg (by simp [hl s List.mem_cons_self]), hend]

structure Reused (t t' : FileTree) : Prop where
  keys : Entries.keys t'.entries = Entries.keys t.entries
  top : Entries.get? [] t'.entries = Entries.get? [] t.entries

theorem Reused.refl (t : FileTree) : Reused t t := ⟨rfl, rfl⟩

theorem Reused.trans {t'' : FileTree} (h : Reused t t') (h' : Reused t' t'') : Reused t t'' :=
  ⟨h'.keys.trans h.keys, h'.top.trans h.top⟩

theorem Reused.eq (h : Reused t t') (hh : t'.here = t.here) (hg : ∀ q, t'.get? q = t.get? q) :
    t' = t := by
  have he : t'.entries = t.entries := by
    refine Entries.eq_of_keys t'.distinct h.keys fun q => ?_
    by_cases hq : q = []
    · rw [hq, h.top]
    · have := hg q
      rwa [get?, get?, entryAt?, entryAt?, if_neg hq, if_neg hq] at this
  cases t
  cases t'
  cases he
  cases hh
  rfl

theorem putFile_reused {dir : Trail} {name : String} {e : Entry}
    (h : t.putFile dir name e = .ok t') (hs : (t.get? (dir ++ [name])).isSome) : Reused t t' := by
  unfold putFile at h
  split at h
  · split at h
    · cases h
      have hne : dir ++ [name] ≠ [] := by simp
      have hm : dir ++ [name] ∈ Entries.keys t.entries := by
        obtain ⟨v, hv⟩ := Option.isSome_iff_exists.1 hs
        rw [get?, entryAt?, if_neg hne] at hv
        exact Entries.mem_keys_of_get? hv
      exact ⟨(Entries.keys_put _ _ _).trans (if_pos hm),
        (Entries.get?_put _ _ _ _).trans (if_neg hne)⟩
    · cases h
  · cases h

theorem writeEntry_cases {path : String} {e : Entry} (h : t.writeEntry path e = .ok t') :
    ∃ dir name, t.target path = .ok (.name dir name) ∧ t.place path = dir ++ [name] ∧
      endsInSlash path = false ∧ isLong name = false ∧ t.putFile dir name e = .ok t' := by
  unfold writeEntry at h
  cases hg : t.target path with
  | error e => rw [hg] at h; cases h
  | ok g =>
    rw [hg] at h
    rcases target_ok hg with ⟨rfl, -⟩ | ⟨ss, dir, name, rfl, -, hp, -⟩
    · cases h
    · change (if endsInSlash path = true then _ else _) = _ at h
      split at h
      · cases h
      · next he =>
        split at h
        · cases h
        · next hl => exact ⟨dir, name, rfl, hp, by simpa using he, by simpa using hl, h⟩

end FileTree

/-- What a path needs for a file to be written at it, whatever stands in the tree. -/
structure Writable (path : String) : Prop where
  fits : Fits path
  isFile : endsInSlash path = false
  named : ∃ ss name, segments path = ss ++ [name] ∧ name ≠ "." ∧ name ≠ ".."

section Again

variable {t t' : FileTree} {base path content : String} {files : List (String × String)}

theorem fits_of_target {dir : Trail} {name : String} (h : t.target path = .ok (.name dir name))
    (hl : isLong name = false) :
    Fits path ∧ ∃ ss, segments path = ss ++ [name] ∧ name ≠ "." ∧ name ≠ ".." := by
  have hk := FileTree.checkPath_of_target h
  rcases List.eq_nil_or_concat (segments path) with hs | ⟨ss, s, hs⟩
  · rw [FileTree.target_nil hk hs] at h
    cases h
  · rw [List.concat_eq_append] at hs
    rw [FileTree.target_concat hk hs] at h
    cases hd : t.descend (t.start (isAbsolute path)) ss with
    | error e => rw [hd] at h; cases h
    | ok p =>
      rw [hd] at h
      change Except.ok (lastStep p s) = _ at h
      unfold lastStep at h
      split at h
      · cases h
      · next h1 =>
        split at h
        · cases h
        · next h2 =>
          cases h
          have hn : ∀ u ∈ ss ++ [name], isLong u = false :=
            List.forall_mem_append.2 ⟨FileTree.descend_names hd, by simpa using hl⟩
          refine ⟨⟨size_of_checkPath hk, fun hz => ?_, hs ▸ hn⟩, ss, hs, h1, h2⟩
          rw [FileTree.checkPath, if_pos (by simpa using hz)] at hk
          cases hk

theorem writable_of_writeInto
    (h : (writeInto path content : StateM FileTree _).run t = (.ok (), t')) : Writable path := by
  rw [writeInto] at h
  obtain ⟨r₁, t₁, -, h⟩ := exists_of_run_bind h
  split at h
  · rw [run_write] at h
    cases hw : t₁.writeEntry path (.text content) with
    | error e => rw [hw] at h; cases h
    | ok t₂ =>
      obtain ⟨dir, name, hg, -, he, hl, -⟩ := FileTree.writeEntry_cases hw
      obtain ⟨hf, ss, hs⟩ := fits_of_target hg hl
      exact ⟨hf, he, ss, name, hs⟩
  · cases h

theorem ensureParent_open (hw : Writable path)
    (ho : t.Open (t.start (isAbsolute path)) (components path).dropLast) :
    (ensureParent path : StateM FileTree _).run t = (.ok (), t) := by
  have hsub : (components path).dropLast.Sublist (components path) := List.dropLast_sublist _
  have hn : ∀ s ∈ (components path).dropLast, IsName s := fun s hs =>
    Path.isName_of_mem_components (hsub.subset hs)
  rw [ensureParent]
  rcases List.eq_nil_or_concat (components path).dropLast with he | ⟨us, s, he⟩
  · rw [he]
    rfl
  · rw [List.concat_eq_append] at he
    have hf := hw.fits.ofComponents hsub (by simp [he])
    rw [he] at ho hn hf
    have hs := Path.segments_ofComponents (isAbsolute path) hn
    rw [← Path.isAbsolute_ofComponents (isAbsolute path) hn] at ho
    have hd := FileTree.ensureDirectory_open (hf.checkPath (by simp [hs])) hs ho (hs ▸ hf.names)
    rw [he, List.reverse_append, List.reverse_singleton, List.singleton_append, ensureSteps,
      StateT.run_bind, run_ensureDirectory, List.reverse_cons, List.reverse_reverse, hd]
    rfl

theorem writeInto_again {old : String} (hu : ".." ∉ segments path) (hw : Writable path)
    (hway : ∀ q, Above q (t.place path) → t.get? q = some .directory)
    (hfile : t.get? (t.place path) = some (.text old)) (content : String) :
    ∃ t', (writeInto path content : StateM FileTree _).run t = (.ok (), t') ∧ t.Reused t' := by
  obtain ⟨ss, name, hs, hdot, hup⟩ := hw.named
  have hu : ".." ∉ ss := fun hm => hu (by rw [hs]; exact List.mem_append_left _ hm)
  have hplace : t.place path = t.start (isAbsolute path) ++ plain ss ++ [name] := by
    rw [FileTree.place, hs, FileTree.follow_concat, FileTree.step_name hdot hup,
      FileTree.follow_eq_append hu]
  have hopen : t.Open (t.start (isAbsolute path)) ss := fun q hq => by
    have hp := hq.isPrefix hu
    refine hway q ⟨hplace ▸ hp.trans (List.prefix_append _ _), fun he => ?_⟩
    rw [he, hplace] at hp
    exact absurd hp.length_le (by simp)
  obtain ⟨us, hus, hpl⟩ := Path.components_concat hs hdot
  have hparent : (ensureParent path : StateM FileTree _).run t = (.ok (), t) := by
    refine ensureParent_open hw ?_
    rw [hus, List.dropLast_concat]
    intro q hq
    rw [← FileTree.onWay_plain, hpl, FileTree.onWay_plain] at hq
    exact hopen q hq
  obtain ⟨t', h⟩ := FileTree.writeEntry_open (.text content) (hw.fits.checkPath (by simp [hs])) hs
    ⟨hdot, hup⟩ hw.isFile hopen (hs ▸ hw.fits.names) (by simp [hfile])
  obtain ⟨dir, name, -, hp, -, -, hput⟩ := FileTree.writeEntry_cases h
  refine ⟨t', ?_, FileTree.putFile_reused hput (by rw [← hp, hfile]; rfl)⟩
  rw [writeInto, StateT.run_bind, hparent]
  change (Access.write path content : StateM FileTree _).run t = _
  rw [run_write, h]

def Settled (dir : Trail) (t : FileTree) (f : String × String) : Prop :=
  (∀ q, Above q (dir ++ Path.normal f.1) → t.get? q = some .directory) ∧
    ∃ content, t.get? (dir ++ Path.normal f.1) = some (.text content)

theorem Settled.after {dir p : Trail} {f : String × String} (h : Settled dir t f)
    (hl : Lays p content t t') : Settled dir t' f := by
  obtain ⟨hway, old, hold⟩ := h
  refine ⟨fun q hq => hl.keeps (hway q hq), ?_⟩
  by_cases hq : dir ++ Path.normal f.1 <+: p
  · by_cases he : dir ++ Path.normal f.1 = p
    · exact ⟨content, he ▸ hl.file⟩
    · rcases hl.way _ ⟨hq, he⟩ with hd | hd <;> rw [hold] at hd <;> cases hd
  · exact ⟨old, (hl.rest _ hq).trans hold⟩

theorem writeEach_again (hb : ¬ Path.Leaves base) (hf : ∀ f ∈ files, ¬ Path.Leaves f.1)
    (hw : ∀ f ∈ files, Writable (Path.join base f.1))
    (hs : ∀ f ∈ files, Settled (t.here ++ Path.normal base) t f) :
    ∃ t', (writeEach base files : StateM FileTree _).run t = (.ok (), t') ∧ t.Reused t' := by
  induction files generalizing t with
  | nil => exact ⟨t, rfl, .refl t⟩
  | cons f files ih =>
    obtain ⟨hl, hf⟩ := List.forall_mem_cons.1 hf
    obtain ⟨hwf, hw⟩ := List.forall_mem_cons.1 hw
    obtain ⟨⟨hway, old, hold⟩, hs⟩ := List.forall_mem_cons.1 hs
    have hu := below_join hb hl
    rw [← place_normal hb hl] at hway hold
    obtain ⟨t₁, h₁, hr₁⟩ := writeInto_again hu hwf hway hold f.2
    have hlays := writeInto_lays hu h₁
    obtain ⟨t₂, h₂, hr₂⟩ := ih (t := t₁) hf hw fun g hg => by
      rw [hlays.here]
      exact (hs g hg).after hlays
    exact ⟨t₂, (writeEach_cons h₁).trans h₂, hr₁.trans hr₂⟩

theorem writable_of_writeEach
    (h : (writeEach base files : StateM FileTree _).run t = (.ok (), t')) :
    ∀ f ∈ files, Writable (Path.join base f.1) := by
  induction files generalizing t with
  | nil => exact nofun
  | cons f files ih =>
    obtain ⟨t₁, h₁, h⟩ := writeEach_cons_ok h
    exact List.forall_mem_cons.2 ⟨writable_of_writeInto h₁, ih h⟩

end Again

theorem exists_last {α : Type} {p : α → Prop} {xs : List α} (h : ∃ x ∈ xs, p x) :
    ∃ before x after, xs = before ++ x :: after ∧ p x ∧ ∀ y ∈ after, ¬ p y := by
  induction xs with
  | nil => exact absurd h (by simp)
  | cons x xs ih =>
    by_cases hl : ∃ y ∈ xs, p y
    · obtain ⟨before, y, after, rfl, hy, hlast⟩ := ih hl
      exact ⟨x :: before, y, after, rfl, hy, hlast⟩
    · obtain ⟨y, hy, hp⟩ := h
      rcases List.mem_cons.1 hy with rfl | hy
      · exact ⟨[], y, xs, rfl, hp, fun z hz hp => hl ⟨z, hz, hp⟩⟩
      · exact absurd ⟨y, hy, hp⟩ hl

section Overlaid

variable {t t' t'' : FileTree} {dir : Trail} {f : String × String} {files : List (String × String)}

/-- Where a file of the batch goes, there is the text of the last file that goes there. -/
theorem Overlaid.text (dir : Trail) (hf : f ∈ files) :
    ∃ content, ∀ {t t' : FileTree}, Overlaid dir files t t' →
      t'.get? (dir ++ Path.normal f.1) = some (.text content) := by
  obtain ⟨before, g, after, he, hg, hlast⟩ :=
    exists_last (p := fun g : String × String => Path.normal g.1 = Path.normal f.1) ⟨f, hf, rfl⟩
  refine ⟨g.2, fun h => ?_⟩
  rw [← hg] at hlast ⊢
  exact h.file before g after he hlast

theorem Overlaid.settled (h : Overlaid dir files t t') : ∀ f ∈ files, Settled dir t' f := by
  intro f hf
  obtain ⟨content, htext⟩ := Overlaid.text dir hf
  exact ⟨h.around f hf, content, htext h⟩

/-- A batch that lies over a tree already lies over it as before. -/
theorem Overlaid.get?_eq (h : Overlaid dir files t t') (h' : Overlaid dir files t' t'')
    (q : Trail) : t''.get? q = t'.get? q := by
  by_cases hq : ∃ f ∈ files, q <+: dir ++ Path.normal f.1
  · obtain ⟨f, hf, hq⟩ := hq
    by_cases he : q = dir ++ Path.normal f.1
    · obtain ⟨content, htext⟩ := Overlaid.text dir hf
      rw [he, htext h', htext h]
    · rw [h'.around f hf q ⟨hq, he⟩, h.around f hf q ⟨hq, he⟩]
  · exact h'.rest q fun f hf hp => hq ⟨f, hf, hp⟩

end Overlaid

/-- A batch that succeeds lies over the tree: each place has what the batch has last for it, there
are directories on the way to it, and all else is as it was; written again, the batch succeeds and
the tree is the same. A batch that fails does so at one of its files. Then the tree is the one that
the files before it leave, but for new directories on the way to that file, and it is this tree
whatever files come after it. -/
theorem writeFiles_overlays (t : FileTree) {base : String} (hb : ¬ Path.Leaves base)
    {files : List (String × String)} (hf : ∀ f ∈ files, ¬ Path.Leaves f.1) :
    (∀ t', (writeFiles base files : StateM FileTree _).run t = (.ok (), t') →
      Overlaid (t.here ++ Path.normal base) files t t' ∧
        (writeFiles base files : StateM FileTree _).run t' = (.ok (), t')) ∧
    ∀ e t', (writeFiles base files : StateM FileTree _).run t = (.error e, t') →
      ∃ before f after t₁, files = before ++ f :: after ∧
        (writeFiles base before : StateM FileTree _).run t = (.ok (), t₁) ∧
        Grows (Above · (t.here ++ Path.normal base ++ Path.normal f.1)) t₁ t' ∧
        ∀ later : List (String × String), (∀ g ∈ later, ¬ Path.Leaves g.1) →
          (writeFiles base (before ++ f :: later) : StateM FileTree _).run t = (.error e, t') := by
  rw [writeFiles_inside hf]
  constructor
  · intro t' h
    have ho := writeEach_overlaid hb hf h
    have hsettled := ho.settled
    rw [← ho.here] at hsettled
    obtain ⟨t'', h', hr⟩ := writeEach_again hb hf (writable_of_writeEach h) hsettled
    have ho' := writeEach_overlaid hb hf h'
    have hsame : t'' = t' := by
      refine hr.eq ho'.here (ho.get?_eq ?_)
      rwa [← ho.here]
    exact ⟨ho, hsame ▸ h'⟩
  · intro e t' h
    obtain ⟨before, f, after, t₁, rfl, hbefore, hfail⟩ := writeEach_error h
    obtain ⟨hlb, hlf⟩ := List.forall_mem_append.1 hf
    obtain ⟨hlf, -⟩ := List.forall_mem_cons.1 hlf
    have hg := writeInto_error (below_join hb hlf) hfail
    rw [place_normal hb hlf, (writeEach_overlaid hb hlb hbefore).here] at hg
    refine ⟨before, f, after, t₁, rfl, by rw [writeFiles_inside hlb, hbefore], hg,
      fun later hl => ?_⟩
    rw [writeFiles_inside (List.forall_mem_append.2 ⟨hlb, List.forall_mem_cons.2 ⟨hlf, hl⟩⟩)]
    exact writeEach_stops hbefore hfail later

def spelledBatch : List (String × String) := [("a/b", "x"), ("c", "y"), ("./a//b", "z")]

def blockedBatch : List (String × String) := [("a", "x"), ("a/b", "y"), ("c", "z")]

theorem run_of_answer {α : Type} {m : StateM FileTree α} {t : FileTree} {a : α}
    (h : (m.run t).1 = a) : m.run t = (a, (m.run t).2) := Prod.ext h rfl

theorem spelledBatch_overlays :
    ¬ Path.Leaves "out" ∧ (∀ f ∈ spelledBatch ++ blockedBatch, ¬ Path.Leaves f.1) ∧
    (∃ t', (writeFiles "out" spelledBatch : StateM FileTree _).run .empty = (.ok (), t') ∧
      Overlaid ["out"] spelledBatch .empty t' ∧
      (writeFiles "out" spelledBatch : StateM FileTree _).run t' = (.ok (), t')) ∧
    ∃ t', (writeFiles "out" blockedBatch : StateM FileTree _).run .empty =
        (.error .alreadyExists, t') ∧
      ∃ before f after t₁, blockedBatch = before ++ f :: after ∧
        (writeFiles "out" before : StateM FileTree _).run .empty = (.ok (), t₁) ∧
        Grows (Above · (["out"] ++ Path.normal f.1)) t₁ t' := by
  have hb : ¬ Path.Leaves "out" := by decide
  have hf : ∀ f ∈ spelledBatch ++ blockedBatch, ¬ Path.Leaves f.1 := by decide +kernel
  obtain ⟨hs, hk⟩ := List.forall_mem_append.1 hf
  have hn : FileTree.empty.here ++ Path.normal "out" = ["out"] := by decide
  refine ⟨hb, hf, ?_, ?_⟩
  · have hrun := run_of_answer
      (show ((writeFiles "out" spelledBatch : StateM FileTree _).run .empty).1 = .ok () by
        decide +kernel)
    have h := (writeFiles_overlays .empty hb hs).1 _ hrun
    rw [hn] at h
    exact ⟨_, hrun, h⟩
  · have hrun := run_of_answer
      (show ((writeFiles "out" blockedBatch : StateM FileTree _).run .empty).1 =
          .error .alreadyExists by decide +kernel)
    obtain ⟨before, f, after, t₁, he, hbefore, hg, -⟩ :=
      (writeFiles_overlays .empty hb hk).2 _ _ hrun
    rw [hn] at hg
    exact ⟨_, hrun, before, f, after, t₁, he, hbefore, hg⟩

end Files

end TypedClient
