import TypedClient.Proofs.Files.Place

set_option autoImplicit false

namespace TypedClient.Files

open Files.Path (segments components isAbsolute IsName)
open FileTree (OnWay Grows)

variable {t t' : FileTree} {path : String} {r : Except FileError Unit}

theorem run_ensureDirectory (path : String) (t : FileTree) :
    (Access.ensureDirectory path : StateM FileTree _).run t =
      match t.ensureDirectory path with
      | .ok t' => (.ok (), t')
      | .error e => (.error e, t) := rfl

theorem run_write (path content : String) (t : FileTree) :
    (Access.write path content : StateM FileTree _).run t =
      match t.writeEntry path (.text content) with
      | .ok t' => (.ok (), t')
      | .error e => (.error e, t) := rfl

theorem exists_of_run_bind {α β : Type} {x : StateM FileTree α} {f : α → StateM FileTree β}
    {r : β × FileTree} (h : (x >>= f).run t = r) :
    ∃ a t₁, x.run t = (a, t₁) ∧ (f a).run t₁ = r := ⟨_, _, rfl, h⟩

theorem ensureDirectory_spec
    (h : (Access.ensureDirectory path : StateM FileTree _).run t = (r, t')) :
    Grows (· = t.place path) t t' ∧
      (r = .ok () → t'.Open (t.start (isAbsolute path)) (segments path)) := by
  rw [run_ensureDirectory] at h
  cases hd : t.ensureDirectory path with
  | error e =>
    rw [hd] at h
    cases h
    exact ⟨.refl _ t, nofun⟩
  | ok t₁ =>
    rw [hd] at h
    cases h
    obtain ⟨hg, ho⟩ := FileTree.ensureDirectory_ok hd
    exact ⟨hg, fun _ => ho⟩

theorem ensureSteps_spec (absolute : Bool) {steps : List String} (hn : ∀ s ∈ steps, IsName s)
    (h : (ensureSteps absolute steps : StateM FileTree _).run t = (r, t')) :
    Grows (OnWay (t.start absolute) steps.reverse) t t' ∧
      (r = .ok () → t'.Open (t.start absolute) steps.reverse) := by
  induction steps generalizing t t' r with
  | nil =>
    cases h
    exact ⟨.refl _ t, fun _ => FileTree.open_nil (FileTree.get?_start _)⟩
  | cons s outer ih =>
    have hn' : ∀ c ∈ (s :: outer).reverse, IsName c := fun c hc => hn c (List.mem_reverse.1 hc)
    have ih {t₁ t₂ r'} := @ih t₁ t₂ r' fun c hc => hn c (List.mem_cons_of_mem s hc)
    -- The innermost directory is at the end of the way.
    have hd {t₁ t₂ : FileTree} {r' : Except FileError Unit}
        (hr : (Access.ensureDirectory (Path.ofComponents absolute (s :: outer).reverse) :
          StateM FileTree _).run t₁ = (r', t₂)) :
        Grows (OnWay (t₁.start absolute) (s :: outer).reverse) t₁ t₂ ∧
          (r' = .ok () → t₂.Open (t₁.start absolute) (s :: outer).reverse) := by
      have hs := ensureDirectory_spec hr
      rw [FileTree.place, Path.segments_ofComponents absolute hn',
        Path.isAbsolute_ofComponents absolute hn'] at hs
      exact ⟨hs.1.mono fun q hq => hq ▸ FileTree.onWay_end, hs.2⟩
    rw [ensureSteps] at h
    obtain ⟨r₁, t₁, h₁, h⟩ := exists_of_run_bind h
    obtain ⟨hg₁, ho₁⟩ := hd h₁
    split at h
    · obtain ⟨r₂, t₂, h₂, h⟩ := exists_of_run_bind h
      obtain ⟨hg₂, -⟩ := ih h₂
      rw [hg₁.start] at hg₂
      have hg := hg₁.trans (hg₂.mono fun q hq =>
        List.reverse_cons ▸ FileTree.onWay_append.2 (.inl hq))
      split at h
      · obtain ⟨hg₃, ho₃⟩ := hd h
        rw [hg.start] at hg₃ ho₃
        exact ⟨hg.trans hg₃, ho₃⟩
      · cases h
        exact ⟨hg, fun he => by cases he⟩
    · cases h
      exact ⟨hg₁, ho₁⟩

def Around (t : FileTree) (path : String) : Trail → Prop :=
  OnWay (t.start (isAbsolute path)) (components path).dropLast

theorem ensureParent_spec (h : (ensureParent path : StateM FileTree _).run t = (r, t')) :
    Grows (Around t path) t t' ∧
      (r = .ok () → t'.Open (t.start (isAbsolute path)) (components path).dropLast) := by
  have hn : ∀ s ∈ (components path).dropLast.reverse, IsName s := fun s hs =>
    Path.isName_of_mem_components ((List.dropLast_sublist _).subset (List.mem_reverse.1 hs))
  have hs := ensureSteps_spec (isAbsolute path) hn h
  rwa [List.reverse_reverse] at hs

/-- The text stands at the place, where no directory stood; all else is as it was. -/
structure Puts (place : Trail) (content : String) (t t' : FileTree) : Prop where
  here : t'.here = t.here
  free : t.get? place ≠ some .directory
  get : ∀ q, t'.get? q = if place = q then some (.text content) else t.get? q

/-- First the directories around the file are made, all of them or some; only then the file is
written, or nothing more happens. -/
theorem writeInto_spec {content : String}
    (h : (writeInto path content : StateM FileTree _).run t = (r, t')) :
    ∃ t₁, Grows (Around t path) t t₁ ∧
      ((r ≠ .ok () ∧ t' = t₁) ∨
        (r = .ok () ∧ t₁.Open (t.start (isAbsolute path)) (components path).dropLast ∧
          Puts (t.place path) content t₁ t')) := by
  rw [writeInto] at h
  obtain ⟨r₁, t₁, h₁, h⟩ := exists_of_run_bind h
  obtain ⟨hg, ho⟩ := ensureParent_spec h₁
  refine ⟨t₁, hg, ?_⟩
  split at h
  · rw [run_write] at h
    cases hw : t₁.writeEntry path (.text content) with
    | error e =>
      rw [hw] at h
      cases h
      exact .inl ⟨nofun, rfl⟩
    | ok t₂ =>
      rw [hw] at h
      cases h
      have hp : t₁.place path = t.place path := by
        rw [FileTree.place, FileTree.place, hg.start]
      obtain ⟨hh, hf, hq⟩ := FileTree.writeEntry_ok hw
      rw [hp] at hf hq
      exact .inr ⟨rfl, ho rfl, hh, hf, hq⟩
  · cases h
    exact .inl ⟨nofun, rfl⟩

end TypedClient.Files
