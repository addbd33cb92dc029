import TypedClient.Proofs.Files.Writing

/-!
Writing files stays below the base. A batch with a path that leads out of it is refused before
anything is written; any other batch changes nothing but what is below the base, however it ends.
-/

set_option autoImplicit false

namespace TypedClient.Files

open Files.Path (segments components plain isAbsolute)
open FileTree (OnWay Grows follow)

/-- What is not as it was is the base or below it, or a new directory around it. -/
structure Confined (base : Trail) (t t' : FileTree) : Prop where
  here : t'.here = t.here
  get : ∀ q, t'.get? q ≠ t.get? q →
    base <+: q ∨ (q <+: base ∧ t.get? q = none ∧ t'.get? q = some .directory)

section Confined

variable {base : Trail} {t t' t'' : FileTree}

theorem Confined.refl (base : Trail) (t : FileTree) : Confined base t t :=
  ⟨rfl, fun _ h => absurd rfl h⟩

theorem Confined.trans (h : Confined base t t') (h' : Confined base t' t'') :
    Confined base t t'' := by
  refine ⟨h'.here.trans h.here, fun q hq => ?_⟩
  by_cases h₁ : t'.get? q = t.get? q
  · rw [← h₁] at hq ⊢
    exact h'.get q hq
  · refine (h.get q h₁).elim .inl fun ⟨hp, hn, hd⟩ => ?_
    by_cases h₂ : t''.get? q = t'.get? q
    · exact .inr ⟨hp, hn, h₂.trans hd⟩
    · -- A directory around the base that stands there already does not change again.
      exact (h'.get q h₂).elim .inl fun ⟨_, hn', _⟩ => by simp [hd] at hn'

theorem FileTree.Grows.confined {places : Trail → Prop} (h : Grows places t t')
    (hp : ∀ q, places q → base <+: q ∨ q <+: base) : Confined base t t' := by
  refine ⟨h.here, fun q hq => ?_⟩
  obtain ⟨hpl, hn, hd⟩ := (h.get q).resolve_left hq
  exact (hp q hpl).imp_right fun hb => ⟨hb, hn, hd⟩

theorem Puts.confined {place : Trail} {content : String} (h : Puts place content t t')
    (hp : base <+: place) : Confined base t t' := by
  refine ⟨h.here, fun q hq => .inl ?_⟩
  rw [h.get] at hq
  by_cases he : place = q
  · exact he ▸ hp
  · exact absurd (if_neg he) hq

end Confined

theorem FileTree.OnWay.isPrefix {dir q : Trail} {ss : List String} (h : OnWay dir ss q)
    (hu : ".." ∉ ss) : q <+: dir ++ plain ss := by
  obtain ⟨us, hp, rfl⟩ := h
  rw [FileTree.follow_eq_append fun hm => hu (hp.subset hm)]
  exact List.prefix_append_right_inj _ |>.2 (hp.filter _)

section Below

variable {base path : String}

theorem not_leaves_iff : ¬ Path.Leaves path ↔ isAbsolute path = false ∧ ".." ∉ segments path := by
  rw [← Path.isInside_iff, ← Path.isInside_eq_false_iff, Bool.not_eq_false]

/-- A path that does not leave goes on from the place of the base. -/
theorem place_join (t : FileTree) (h : ¬ Path.Leaves path) :
    t.place (Path.join base path) = t.place base ++ plain (segments path) := by
  obtain ⟨ha, hu⟩ := not_leaves_iff.1 h
  rw [FileTree.place, Path.segments_join ha, Path.isAbsolute_join ha, FileTree.follow_append,
    FileTree.follow_eq_append hu]
  rfl

theorem around_join {t : FileTree} (hb : ".." ∉ segments base) (h : ¬ Path.Leaves path) {q : Trail}
    (hq : Around t (Path.join base path) q) : t.place base <+: q ∨ q <+: t.place base := by
  obtain ⟨ha, hu⟩ := not_leaves_iff.1 h
  have hs : ".." ∉ segments (Path.join base path) := by
    rw [Path.segments_join ha, List.mem_append]
    exact not_or.2 ⟨hb, hu⟩
  have hp : q <+: t.place (Path.join base path) := by
    rw [FileTree.place, FileTree.follow_eq_append hs, ← Path.plain_components]
    refine (hq.isPrefix fun hm => hs ?_).trans ?_
    · exact Path.up_mem_components.1 ((List.dropLast_sublist _).subset hm)
    · exact (List.prefix_append_right_inj _).2 ((List.dropLast_prefix _).filter _)
  rw [place_join t h] at hp
  exact List.prefix_or_prefix_of_prefix (List.prefix_append _ _) hp

end Below

section Batches

variable {t t' : FileTree} {base : String} {r : Except FileError Unit}

theorem writeInto_confined {path content : String} (hb : ".." ∉ segments base)
    (h : ¬ Path.Leaves path)
    (hw : (writeInto (Path.join base path) content : StateM FileTree _).run t = (r, t')) :
    Confined (t.place base) t t' := by
  obtain ⟨t₁, hg, hw⟩ := writeInto_spec hw
  have hc : Confined (t.place base) t t₁ := hg.confined fun q hq => around_join hb h hq
  rcases hw with ⟨-, rfl⟩ | ⟨-, -, hp⟩
  · exact hc
  · refine hc.trans (hp.confined ?_)
    rw [place_join t h]
    exact List.prefix_append _ _

theorem Confined.place_eq {b : Trail} (h : Confined b t t') (path : String) :
    t'.place path = t.place path := by
  rw [FileTree.place, FileTree.place, FileTree.start, FileTree.start, h.here]

theorem writeEach_confined {files : List (String × String)} (hb : ".." ∉ segments base)
    (hf : ∀ f ∈ files, ¬ Path.Leaves f.1)
    (h : (writeEach base files : StateM FileTree _).run t = (r, t')) :
    Confined (t.place base) t t' := by
  induction files generalizing t with
  | nil =>
    cases h
    exact .refl _ _
  | cons f files ih =>
    rw [writeEach] at h
    obtain ⟨r₁, t₁, h₁, h⟩ := exists_of_run_bind h
    have hc := writeInto_confined hb (hf f List.mem_cons_self) h₁
    split at h
    · have ih := ih (fun g hg => hf g (List.mem_cons_of_mem f hg)) h
      rw [hc.place_eq] at ih
      exact hc.trans ih
    · cases h
      exact hc

end Batches

theorem writeFiles_inside {base : String} {files : List (String × String)}
    (h : ∀ f ∈ files, ¬ Path.Leaves f.1) :
    (writeFiles base files : StateM FileTree _) = writeEach base files := by
  have hn : (files.find? fun f => !Path.isInside f.1) = none := by
    rw [List.find?_eq_none]
    intro f hm
    have hi := h f hm
    rw [← Path.isInside_eq_false_iff] at hi
    simpa using hi
  rw [writeFiles, hn]

/-- With a path that leads out of the base the batch is refused, by the first of them, and the tree
is the same. Without one, all that changes is below the base, but for the directories that the base
itself needs; so it is also when writing fails half way. -/
theorem writeFiles_confined (t : FileTree) {base : String} (hb : ¬ Path.Leaves base)
    (files : List (String × String)) :
    ((∃ f ∈ files, Path.Leaves f.1) →
      ∃ before f after, files = before ++ f :: after ∧ (∀ g ∈ before, ¬ Path.Leaves g.1) ∧
        Path.Leaves f.1 ∧
        (writeFiles base files : StateM FileTree _).run t = (.error (.outside f.1), t)) ∧
    ((∀ f ∈ files, ¬ Path.Leaves f.1) →
      Confined (t.here ++ plain (segments base)) t
        ((writeFiles base files : StateM FileTree _).run t).2) := by
  obtain ⟨ha, hu⟩ := not_leaves_iff.1 hb
  constructor
  · rintro ⟨f, hf, hl⟩
    have hs : (files.find? fun f => !Path.isInside f.1).isSome := by
      rw [List.find?_isSome]
      exact ⟨f, hf, by simpa using Path.isInside_eq_false_iff.2 hl⟩
    obtain ⟨g, hg⟩ := Option.isSome_iff_exists.1 hs
    obtain ⟨hgl, before, after, he, hbefore⟩ := List.find?_eq_some_iff_append.1 hg
    refine ⟨before, g, after, he, fun e hm => ?_, ?_, ?_⟩
    · rw [← Path.isInside_eq_false_iff]
      simpa using hbefore e hm
    · rw [← Path.isInside_eq_false_iff]
      simpa using hgl
    · rw [writeFiles, hg]
      rfl
  · intro hf
    have hplace : t.place base = t.here ++ plain (segments base) := by
      rw [FileTree.place, FileTree.follow_eq_append hu, ha]
      rfl
    rw [writeFiles_inside hf, ← hplace]
    exact writeEach_confined hu hf rfl

instance (path : String) : Decidable (Path.Leaves path) := inferInstanceAs (Decidable (_ ∨ _))

theorem writeFiles_halfway :
    ¬ Path.Leaves "out" ∧
    (writeFiles "out" [("a", "x"), ("a/../../b", "y")] : StateM FileTree _).run .empty =
      (.error (.outside "a/../../b"), .empty) ∧
    ((writeFiles "out" [("a", "x"), ("a/b", "y")] : StateM FileTree _).run .empty).1.isOk =
      false ∧
    Confined ["out"] .empty
      ((writeFiles "out" [("a", "x"), ("a/b", "y")] : StateM FileTree _).run .empty).2 := by
  have hb : ¬ Path.Leaves "out" := by decide
  have hn : plain (segments "out") = ["out"] := by decide
  have hc := (writeFiles_confined .empty hb [("a", "x"), ("a/b", "y")]).2 (by decide)
  obtain ⟨before, f, after, he, -, hl, hr⟩ :=
    (writeFiles_confined .empty hb [("a", "x"), ("a/../../b", "y")]).1 (by decide)
  have hf : f ∈ [("a", "x"), ("a/../../b", "y")] := he ▸ List.mem_append_cons_self
  have hleaves : ¬ Path.Leaves "a" := by decide
  have hout : f.1 = "a/../../b" := by
    rcases List.mem_cons.1 hf with rfl | hf
    · exact absurd hl hleaves
    · rw [List.mem_singleton.1 hf]
  exact ⟨hb, hout ▸ hr, by decide +kernel, hn ▸ hc⟩

end TypedClient.Files
