import Mathlib.Data.List.Nodup
import TypedClient.Proofs.Files.Confined
import TypedClient.Proofs.Files.Progress

/-!
What a batch leaves behind. Files whose paths are in nobody's way are all written, each with its own
content, and below a base that had nothing in it there is nothing else then.
-/

set_option autoImplicit false

namespace TypedClient

theorem Entries.mem_keys_of_get? {κ α : Type} [DecidableEq κ] {k : κ} {v : α} {es : List (κ × α)}
    (h : get? k es = some v) : k ∈ keys es := by
  induction es with
  | nil => cases h
  | cons e es ih =>
    rw [get?] at h
    split at h
    · next he => exact he ▸ List.mem_cons_self
    · exact List.mem_cons_of_mem _ (ih h)

namespace Files

open Files.Path (segments plain isAbsolute endsInSlash)
open FileTree (OnWay Grows follow)

namespace FileTree

variable {t : FileTree} {dir p : Trail} {e : Entry}

/-- The files below a place, each with its trail from there. -/
def filesBelow (t : FileTree) (dir : Trail) : List (Trail × Entry) :=
  (Entries.keys t.entries).filterMap fun q =>
    (dir.isPrefixOf? q).bind fun p =>
      ((t.get? q).filter (· ≠ .directory)).map fun e => (p, e)

theorem mem_filesBelow :
    (p, e) ∈ t.filesBelow dir ↔ t.get? (dir ++ p) = some e ∧ e ≠ .directory := by
  simp only [filesBelow, List.mem_filterMap, Option.bind_eq_some_iff, Option.map_eq_some_iff,
    Option.filter_eq_some_iff, List.isPrefixOf?_eq_some_iff_append_eq, Prod.mk.injEq]
  constructor
  · rintro ⟨q, -, p, rfl, e, ⟨hq, he⟩, rfl, rfl⟩
    exact ⟨hq, by simpa using he⟩
  · rintro ⟨hq, he⟩
    refine ⟨dir ++ p, ?_, p, rfl, e, ⟨hq, by simpa using he⟩, rfl, rfl⟩
    -- The tree itself is no file.
    have hne : dir ++ p ≠ [] := by
      intro hn
      rw [hn] at hq
      exact he (Option.some.inj hq).symm
    rw [get?, entryAt?, if_neg hne] at hq
    exact Entries.mem_keys_of_get? hq

theorem nodup_filesBelow (t : FileTree) (dir : Trail) : (t.filesBelow dir).Nodup := by
  refine List.Nodup.filterMap (fun q q' b hb hb' => ?_) t.distinct
  simp only [Option.mem_def, Option.bind_eq_some_iff, Option.map_eq_some_iff,
    List.isPrefixOf?_eq_some_iff_append_eq] at hb hb'
  obtain ⟨p, rfl, e, -, rfl⟩ := hb
  obtain ⟨p', rfl, e', -, he⟩ := hb'
  rw [(Prod.mk.inj he).1]

theorem get?_append_of_none (h : t.get? dir = none) (p : Trail) : t.get? (dir ++ p) = none := by
  induction p generalizing dir with
  | nil => rwa [List.append_nil]
  | cons name p ih =>
    rw [List.append_cons]
    apply ih
    rw [← Option.not_isSome_iff_eq_none]
    intro hs
    have hd := t.rooted dir name hs
    rw [show entryAt? t.entries dir = none from h] at hd
    cases hd

end FileTree

/-- A path is plain that does not begin or end with a slash and has no dots for a name. -/
structure Path.IsPlain (path : String) : Prop where
  relative : isAbsolute path = false
  isFile : endsInSlash path = false
  names : segments path ≠ [] ∧ "." ∉ segments path ∧ ".." ∉ segments path

def Path.Apart (p q : String) : Prop := ¬ segments p <+: segments q ∧ ¬ segments q <+: segments p

theorem Path.Apart.ne {p q : String} (h : Path.Apart p q) : segments p ≠ segments q := fun he =>
  h.1 (he ▸ List.prefix_rfl)

section Plain

variable {t : FileTree} {base p : String}

theorem Path.IsPlain.plain_segments (h : Path.IsPlain p) : plain (segments p) = segments p :=
  List.filter_eq_self.2 fun s hs => by simpa using fun he : s = "." => h.names.2.1 (he ▸ hs)

theorem Path.IsPlain.not_leaves (h : Path.IsPlain p) : ¬ Path.Leaves p :=
  not_leaves_iff.2 ⟨h.relative, h.names.2.2⟩

theorem Path.IsPlain.place_join (h : Path.IsPlain p) :
    t.place (Path.join base p) = t.place base ++ segments p := by
  rw [Files.place_join t h.not_leaves, h.plain_segments]

theorem Path.IsPlain.endsInSlash_join (h : Path.IsPlain p) :
    endsInSlash (Path.join base p) = false := by
  have hne : p.toList ≠ [] := by
    intro he
    exact h.names.1 (by rw [segments, he]; rfl)
  obtain ⟨pre, hj⟩ : ∃ pre, (Path.join base p).toList = pre ++ p.toList := by
    rw [Path.join, if_neg (by simp [h.relative])]
    split
    · exact ⟨base.toList, String.toList_append⟩
    · exact ⟨(base ++ "/").toList, String.toList_append⟩
  rw [endsInSlash, hj, List.getLast?_append_of_ne_nil _ hne]
  exact h.isFile

theorem Path.IsPlain.segments_join (h : Path.IsPlain p) :
    segments (Path.join base p) = segments base ++ segments p := Path.segments_join h.relative

/-- The directories that a file below the base stands in, the base and those around it among them. -/
def Needs (t : FileTree) (base p : String) (q : Trail) : Prop :=
  OnWay (t.start (isAbsolute base)) (segments base) q ∨
    ∃ us, us <+: (segments p).dropLast ∧ t.place base ++ us = q

theorem onWay_names {dir q : Trail} {ss : List String} (hd : "." ∉ ss) (hu : ".." ∉ ss) :
    OnWay dir ss q ↔ ∃ us, us <+: ss ∧ dir ++ us = q := by
  refine exists_congr fun us => and_congr_right fun hus => ?_
  have hp : plain us = us := List.filter_eq_self.2 fun s hs => by
    simpa using fun he : s = "." => hd (hus.subset (he ▸ hs))
  rw [FileTree.follow_eq_append fun hm => hu (hus.subset hm), hp]

theorem Path.IsPlain.onWay (h : Path.IsPlain p) {q : Trail} :
    OnWay (t.start (isAbsolute base)) (segments base ++ (segments p).dropLast) q ↔
      Needs t base p q := by
  have hsub := List.dropLast_subset (segments p)
  rw [FileTree.onWay_append,
    onWay_names (fun hm => h.names.2.1 (hsub hm)) fun hm => h.names.2.2 (hsub hm)]
  rfl

theorem Path.IsPlain.around (h : Path.IsPlain p) {q : Trail} :
    Around t (Path.join base p) q ↔ Needs t base p q := by
  rw [← h.onWay, Around, Path.isAbsolute_join h.relative, Path.components_join h.relative h.names.2.1,
    List.dropLast_append_of_ne_nil h.names.1, ← FileTree.onWay_plain, Path.plain_append,
    Path.plain_components, ← Path.plain_append, FileTree.onWay_plain]

end Plain

/-- Nothing is in the way of the file, and the file is in the way of nothing that it needs. -/
structure Able (t : FileTree) (base p : String) : Prop where
  way : ∀ q, OnWay (t.start (isAbsolute base)) (segments base) q →
    t.Passable q ∧ t.place base ++ segments p ≠ q
  inner : ∀ us, us <+: (segments p).dropLast → t.Passable (t.place base ++ us)
  free : t.get? (t.place base ++ segments p) ≠ some .directory

section Able

variable {t t₁ t' : FileTree} {base p q : String}

theorem not_prefix_dropLast {ss : List String} (h : ss ≠ []) : ¬ ss <+: ss.dropLast := by
  intro hp
  have hl := hp.length_le
  have hs := List.length_pos_iff.2 h
  rw [List.length_dropLast] at hl
  omega

theorem Able.not_needs (h : Able t base p) (hp : segments p ≠ []) :
    ¬ Needs t base p (t.place base ++ segments p) := by
  rintro (hw | ⟨us, hus, he⟩)
  · exact (h.way _ hw).2 rfl
  · rw [List.append_cancel_left he] at hus
    exact not_prefix_dropLast hp hus

theorem Able.writeInto (h : Able t base p) (hp : Path.IsPlain p) (hf : Fits (Path.join base p))
    (content : String) :
    ∃ t₁ t', (writeInto (Path.join base p) content : StateM FileTree _).run t = (.ok (), t') ∧
      Grows (Needs t base p) t t₁ ∧ Puts (t.place base ++ segments p) content t₁ t' := by
  have hs : segments (Path.join base p) =
      (segments base ++ (segments p).dropLast) ++ [(segments p).getLast hp.names.1] := by
    rw [hp.segments_join, List.append_assoc, List.dropLast_append_getLast]
  have hl := List.getLast_mem hp.names.1
  have ha : isAbsolute (Path.join base p) = isAbsolute base := Path.isAbsolute_join hp.relative
  obtain ⟨t', hw⟩ : ∃ t', (Files.writeInto (Path.join base p) content : StateM FileTree _).run t =
      (.ok (), t') := by
    refine writeInto_clear hf hs ⟨fun he => hp.names.2.1 (he ▸ hl), fun he => hp.names.2.2 (he ▸ hl)⟩
      hp.endsInSlash_join (fun q hq => ?_) ?_ ?_
    · rw [ha] at hq
      rcases hp.onWay.1 hq with hq | ⟨us, hus, rfl⟩
      · exact (h.way q hq).1
      · exact h.inner us hus
    · rw [ha, hp.place_join, hp.onWay]
      exact h.not_needs hp.names.1
    · rw [hp.place_join]
      exact h.free
  obtain ⟨t₁, hg, hw'⟩ := writeInto_spec hw
  obtain ⟨-, -, hput⟩ := hw'.resolve_left fun h => h.1 rfl
  rw [hp.place_join] at hput
  exact ⟨t₁, t', hw, hg.mono fun q hq => hp.around.1 hq, hput⟩

/-- What is written does not get into the way of a file that it does not lead through. -/
theorem Able.after {content : String} (h : Able t base p) (hq : Able t base q) (ha : Path.Apart p q)
    (hg : Grows (Needs t base p) t t₁) (hput : Puts (t.place base ++ segments p) content t₁ t') :
    Able t' base q := by
  have hh : t'.here = t.here := hput.here.trans hg.here
  have hst (b : Bool) : t'.start b = t.start b := by rw [FileTree.start, FileTree.start, hh]
  have hpl : t'.place base = t.place base := by rw [FileTree.place, FileTree.place, hst]
  have hpass {r : Trail} (hr : t.Passable r) (hne : t.place base ++ segments p ≠ r) :
      t'.Passable r := by
    rw [FileTree.Passable, hput.get, if_neg hne]
    exact hg.stays_passable hr
  refine ⟨fun r hr => ?_, fun us hus => ?_, ?_⟩
  · rw [hst] at hr
    rw [hpl]
    exact ⟨hpass (hq.way r hr).1 (h.way r hr).2, (hq.way r hr).2⟩
  · rw [hpl]
    refine hpass (hq.inner us hus) fun he => ha.1 ?_
    rw [List.append_cancel_left he]
    exact hus.trans (List.dropLast_prefix _)
  · rw [hpl, hput.get, if_neg fun he => ha.ne (List.append_cancel_left he)]
    rcases hg.get (t.place base ++ segments q) with he | ⟨hn, -, -⟩
    · rw [he]
      exact hq.free
    · rcases hn with hw | ⟨us, hus, he⟩
      · exact absurd rfl (hq.way _ hw).2
      · rw [List.append_cancel_left he] at hus
        exact absurd (hus.trans (List.dropLast_prefix _)) ha.2

end Able

/-- Each file of the batch is there; all else is as it was, but for new directories. -/
structure Wrote (t : FileTree) (base : String) (files : List (String × String)) (t' : FileTree) :
    Prop where
  here : t'.here = t.here
  file : ∀ f ∈ files, t'.get? (t.place base ++ segments f.1) = some (.text f.2)
  rest : ∀ q, (∀ f ∈ files, t.place base ++ segments f.1 ≠ q) →
    t'.get? q = t.get? q ∨ (t.get? q = none ∧ t'.get? q = some .directory)

section Batch

variable {t t₁ t' t'' : FileTree} {base : String} {f : String × String}
  {files : List (String × String)}

theorem Wrote.cons (hg : Grows (Needs t base f.1) t t₁)
    (hput : Puts (t.place base ++ segments f.1) f.2 t₁ t')
    (ha : ∀ g ∈ files, Path.Apart f.1 g.1) (h : Wrote t' base files t'') :
    Wrote t base (f :: files) t'' := by
  have hh : t'.here = t.here := hput.here.trans hg.here
  have hpl : t'.place base = t.place base := by
    rw [FileTree.place, FileTree.place, FileTree.start, FileTree.start, hh]
  obtain ⟨here, file, rest⟩ := h
  rw [hpl] at file rest
  refine ⟨here.trans hh, List.forall_mem_cons.2 ⟨?_, file⟩, fun q hq => ?_⟩
  · have hf : t'.get? (t.place base ++ segments f.1) = some (.text f.2) := by
      rw [hput.get, if_pos rfl]
    rcases rest _ fun g hm he => (ha g hm).ne (List.append_cancel_left he).symm with he | ⟨hn, -⟩
    · rw [he, hf]
    · rw [hn] at hf
      cases hf
  · obtain ⟨hne, hq⟩ := List.forall_mem_cons.1 hq
    have hold : t'.get? q = t.get? q ∨ (t.get? q = none ∧ t'.get? q = some .directory) := by
      rw [hput.get, if_neg hne]
      exact (hg.get q).imp_right And.right
    rcases rest q hq with he | ⟨hn, hd⟩
    · rwa [he]
    · rcases hold with he | ⟨-, he⟩
      · exact .inr ⟨he ▸ hn, hd⟩
      · simp [he] at hn

theorem writeEach_wrote (hp : ∀ f ∈ files, Path.IsPlain f.1)
    (ha : files.Pairwise fun f g => Path.Apart f.1 g.1)
    (hf : ∀ f ∈ files, Fits (Path.join base f.1)) (h : ∀ f ∈ files, Able t base f.1) :
    ∃ t', (writeEach base files : StateM FileTree _).run t = (.ok (), t') ∧
      Wrote t base files t' := by
  induction files generalizing t with
  | nil => exact ⟨t, rfl, rfl, nofun, fun _ _ => .inl rfl⟩
  | cons f files ih =>
    obtain ⟨hpf, hp⟩ := List.forall_mem_cons.1 hp
    obtain ⟨haf, ha⟩ := List.pairwise_cons.1 ha
    obtain ⟨hff, hf⟩ := List.forall_mem_cons.1 hf
    obtain ⟨hf₁, h⟩ := List.forall_mem_cons.1 h
    obtain ⟨t₁, t', hw, hg, hput⟩ := hf₁.writeInto hpf hff f.2
    obtain ⟨t'', hr, hwrote⟩ := ih hp ha hf fun g hm => hf₁.after (h g hm) (haf g hm) hg hput
    refine ⟨t'', ?_, hwrote.cons hg hput haf⟩
    rw [writeEach, StateT.run_bind, hw]
    exact hr

end Batch

/-- Files can go below a base that has nothing in it, where all that stands on the way to it are
directories and the way does not pass the place of a file. -/
structure Ready (t : FileTree) (base : String) (paths : List String) : Prop where
  way : ∀ q, OnWay (t.start (isAbsolute base)) (segments base) q →
    t.Passable q ∧ ∀ p ∈ paths, t.place base ++ segments p ≠ q
  vacant : ∀ name, t.get? (t.place base ++ [name]) = none

section Ready

variable {t t' : FileTree} {base : String} {files : List (String × String)}

theorem Ready.get? {paths : List String} (h : Ready t base paths) {p : Trail} (hp : p ≠ []) :
    t.get? (t.place base ++ p) = none := by
  obtain ⟨name, p, rfl⟩ := List.exists_cons_of_ne_nil hp
  rw [List.append_cons]
  exact FileTree.get?_append_of_none (h.vacant name) p

theorem Ready.able {paths : List String} (h : Ready t base paths) {p : String} (hp : p ∈ paths)
    (hne : segments p ≠ []) : Able t base p := by
  refine ⟨fun q hq => ⟨(h.way q hq).1, (h.way q hq).2 p hp⟩, fun us _ => ?_, ?_⟩
  · by_cases hu : us = []
    · rw [hu, List.append_nil]
      exact (h.way _ FileTree.onWay_end).1
    · exact .inr (h.get? hu)
  · rw [h.get? hne]
    exact nofun

/-- All that is below the base is what was written there. -/
theorem Wrote.filesBelow (h : Wrote t base files t') (hr : Ready t base (files.map Prod.fst))
    (ha : files.Pairwise fun f g => Path.Apart f.1 g.1) :
    (t'.filesBelow (t.place base)).Perm (files.map fun f => (segments f.1, .text f.2)) := by
  have hnodup : (files.map fun f => (segments f.1, Entry.text f.2)).Nodup := by
    rw [List.Nodup, List.pairwise_map]
    exact ha.imp fun h he => h.ne (Prod.mk.inj he).1
  refine (List.perm_ext_iff_of_nodup (FileTree.nodup_filesBelow _ _) hnodup).2 fun ⟨p, e⟩ => ?_
  rw [FileTree.mem_filesBelow, List.mem_map]
  constructor
  · rintro ⟨hg, he⟩
    by_cases hm : ∃ f ∈ files, segments f.1 = p
    · obtain ⟨f, hf, rfl⟩ := hm
      rw [h.file f hf] at hg
      exact ⟨f, hf, by rw [Option.some.inj hg]⟩
    · -- Where no file was written there was nothing, or the base, and there is no file now.
      have hold : t.Passable (t.place base ++ p) := by
        by_cases hp : p = []
        · rw [hp, List.append_nil]
          exact (hr.way _ FileTree.onWay_end).1
        · exact .inr (hr.get? hp)
      rcases h.rest (t.place base ++ p) fun f hf he =>
        hm ⟨f, hf, List.append_cancel_left he⟩ with hq | ⟨-, hq⟩
      · rw [hq] at hg
        rcases hold with ho | ho <;> rw [ho] at hg
        · exact absurd (Option.some.inj hg).symm he
        · cases hg
      · rw [hq] at hg
        exact absurd (Option.some.inj hg).symm he
  · rintro ⟨f, hf, he⟩
    obtain ⟨rfl, rfl⟩ := Prod.mk.inj he
    exact ⟨h.file f hf, nofun⟩

/-- Plain paths that are apart from each other all get their files, and nothing else is there. -/
theorem writeFiles_exactly (hp : ∀ f ∈ files, Path.IsPlain f.1)
    (ha : files.Pairwise fun f g => Path.Apart f.1 g.1) (hr : Ready t base (files.map Prod.fst))
    (hf : ∀ f ∈ files, Fits (Path.join base f.1)) :
    ∃ t', (writeFiles base files : StateM FileTree _).run t = (.ok (), t') ∧
      (t'.filesBelow (t.place base)).Perm (files.map fun f => (segments f.1, .text f.2)) := by
  obtain ⟨t', hw, hwrote⟩ := writeEach_wrote hp ha hf fun f hm =>
    hr.able (List.mem_map_of_mem hm) (hp f hm).names.1
  exact ⟨t', by rw [writeFiles_inside fun f hm => (hp f hm).not_leaves, hw], hwrote.filesBelow hr ha⟩

theorem place_name {name : String} (hn : Path.IsName name) (hd : name ≠ "." ∧ name ≠ "..") :
    t.place name = t.here ++ [name] := by
  rw [FileTree.place, Path.segments_of_isName hn, Path.isAbsolute_of_isName hn, FileTree.follow_cons,
    FileTree.step_name hd.1 hd.2]
  rfl

theorem Ready.of_name {paths : List String} {name : String} (hn : Path.IsName name)
    (hd : name ≠ "." ∧ name ≠ "..") (hf : t.Passable (t.here ++ [name]))
    (hv : ∀ n, t.get? (t.here ++ [name] ++ [n]) = none) (hp : ∀ p ∈ paths, segments p ≠ []) :
    Ready t name paths := by
  have hplace : t.place name = t.here ++ [name] := place_name hn hd
  rw [← hplace] at hf hv
  refine ⟨fun q hq => ?_, hv⟩
  rw [Path.segments_of_isName hn, Path.isAbsolute_of_isName hn, FileTree.onWay_cons,
    FileTree.onWay_nil, FileTree.step_name hd.1 hd.2] at hq
  change t.here = q ∨ t.here ++ [name] = q at hq
  rw [← hplace] at hq
  rcases hq with rfl | rfl
  · refine ⟨.inl t.standing, fun p _ he => ?_⟩
    rw [hplace, List.append_assoc] at he
    exact absurd (List.append_right_eq_self.1 he) (List.cons_ne_nil _ _)
  · exact ⟨hf, fun p hm he => hp p hm (List.append_right_eq_self.1 he)⟩

end Ready

section Limits

variable {t t' : FileTree} {path content base : String} {files : List (String × String)}

theorem checkPath_of_writeInto
    (h : (writeInto path content : StateM FileTree _).run t = (.ok (), t')) :
    FileTree.checkPath path = .ok () := by
  rw [writeInto] at h
  obtain ⟨r₁, t₁, -, h⟩ := exists_of_run_bind h
  split at h
  · rw [run_write] at h
    cases hg : t₁.target path with
    | error e =>
      rw [FileTree.writeEntry, hg] at h
      cases h
    | ok g => exact FileTree.checkPath_of_target hg
  · cases h

theorem checkPath_of_writeEach
    (h : (writeEach base files : StateM FileTree _).run t = (.ok (), t')) :
    ∀ f ∈ files, FileTree.checkPath (Path.join base f.1) = .ok () := by
  induction files generalizing t with
  | nil => exact nofun
  | cons f files ih =>
    rw [writeEach] at h
    obtain ⟨r₁, t₁, h₁, h⟩ := exists_of_run_bind h
    split at h
    · exact List.forall_mem_cons.2 ⟨checkPath_of_writeInto h₁, ih h⟩
    · cases h

end Limits

end Files

end TypedClient
