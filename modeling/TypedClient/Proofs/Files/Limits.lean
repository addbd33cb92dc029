import TypedClient.Proofs.Files.Place

set_option autoImplicit false

namespace TypedClient.Files

open Files.Path (segments components isAbsolute ofComponents IsName)

def bytes (s : List Char) : Nat := (String.ofList s).utf8ByteSize

theorem bytes_cons (c : Char) (s : List Char) : bytes (c :: s) = bytes [c] + bytes s := by
  rw [bytes, bytes, bytes, ← String.utf8ByteSize_append, ← String.ofList_append]
  rfl

theorem bytes_replicate (n : Nat) (c : Char) : bytes (List.replicate n c) = n * bytes [c] := by
  induction n with
  | zero => simp [bytes]
  | succ n ih => rw [List.replicate_succ, bytes_cons, ih, Nat.succ_mul, Nat.add_comm]

theorem bytes_toList (s : String) : bytes s.toList = s.utf8ByteSize := by
  rw [bytes, String.ofList_toList]

def weight : List String → Nat
  | [] => 0
  | s :: ss => s.utf8ByteSize + 1 + weight ss

theorem weight_cons (s : String) (ss : List String) :
    weight (s :: ss) = s.utf8ByteSize + 1 + weight ss := rfl

theorem weight_sublist {ss us : List String} (h : ss.Sublist us) : weight ss ≤ weight us := by
  induction h with
  | slnil => exact Nat.le_refl 0
  | cons u _ ih =>
    rw [weight_cons]
    omega
  | cons_cons u _ ih =>
    rw [weight_cons, weight_cons]
    omega

theorem weight_pieces (s : List Char) :
    weight ((Text.pieces '/' s).map String.ofList) = bytes s + 1 := by
  induction s with
  | nil => decide
  | cons c s ih =>
    obtain ⟨p, ps, hp⟩ := List.exists_cons_of_ne_nil (Text.pieces_ne_nil '/' s)
    rw [hp, List.map_cons, weight_cons] at ih
    rw [bytes_cons]
    by_cases hc : c = '/'
    · have hb : bytes [c] = 1 := by rw [hc]; decide
      rw [Text.pieces, if_pos hc, hp, List.map_cons, List.map_cons, weight_cons, weight_cons, ih, hb]
      exact congrArg (· + _) (Nat.zero_add 1)
    · have hb := bytes_cons c p
      rw [Text.pieces, if_neg hc, hp]
      rw [List.map_cons, weight_cons]
      unfold bytes at hb ih ⊢
      omega

theorem weight_replicate (n : Nat) (s : String) :
    weight (List.replicate n s) = n * (s.utf8ByteSize + 1) := by
  induction n with
  | zero => simp [weight]
  | succ n ih => rw [List.replicate_succ, weight_cons, ih, Nat.succ_mul, Nat.add_comm]

theorem size_intercalate (ss : List String) :
    ("/".intercalate ss).utf8ByteSize = weight ss - 1 := by
  induction ss with
  | nil => decide
  | cons s ss ih =>
    rw [weight_cons]
    cases ss with
    | nil => simp [weight]
    | cons u us =>
      have hs : "/".utf8ByteSize = 1 := by decide
      rw [String.intercalate_cons_cons, String.utf8ByteSize_append, String.utf8ByteSize_append, ih,
        hs, weight_cons]
      omega

/-- The names take no more than the path has; a slash at its beginning comes on top of them. -/
theorem weight_segments (path : String) :
    weight (segments path) + (if isAbsolute path then 1 else 0) ≤ path.utf8ByteSize + 1 := by
  have hle (ps : List (List Char)) : weight ((ps.filter fun s => !s.isEmpty).map String.ofList) ≤
      weight (ps.map String.ofList) := weight_sublist (List.filter_sublist.map _)
  rw [← bytes_toList, ← weight_pieces]
  cases h : isAbsolute path with
  | false => exact hle _
  | true =>
    obtain ⟨s, hs⟩ := Path.isAbsolute_iff.1 h
    have hp : Text.pieces '/' path.toList = [] :: Text.pieces '/' s := by
      rw [← hs]
      rfl
    have := hle (Text.pieces '/' s)
    rw [segments, hp, List.map_cons, weight_cons]
    simp only [List.isEmpty_nil, Bool.not_true, Bool.false_eq_true, not_false_eq_true,
      List.filter_cons_of_neg, if_true]
    omega

theorem size_le_join {base path : String} (h : isAbsolute path = false) :
    base.utf8ByteSize ≤ (Path.join base path).utf8ByteSize := by
  rw [Path.join, if_neg (by simp [h])]
  split <;> simp only [String.utf8ByteSize_append] <;> omega

theorem size_of_checkPath {path : String} (h : FileTree.checkPath path = .ok ()) :
    path.utf8ByteSize < 4096 := by
  unfold FileTree.checkPath at h
  split at h
  · cases h
  · split at h
    · cases h
    · omega

/-- The path has less than 4096 bytes, none of them zero, and each of its names at most 255. -/
structure Fits (path : String) : Prop where
  size : path.utf8ByteSize < 4096
  noZero : '\x00' ∉ path.toList
  names : ∀ s ∈ segments path, FileTree.isLong s = false

instance (path : String) : Decidable (Fits path) :=
  decidable_of_iff
    (path.utf8ByteSize < 4096 ∧ '\x00' ∉ path.toList ∧ ∀ s ∈ segments path, FileTree.isLong s = false)
    ⟨fun ⟨hs, hz, hn⟩ => ⟨hs, hz, hn⟩, fun ⟨hs, hz, hn⟩ => ⟨hs, hz, hn⟩⟩

namespace Fits

variable {path : String}

theorem checkPath (h : Fits path) (hne : segments path ≠ []) :
    FileTree.checkPath path = .ok () := by
  have hs := h.size
  have hp : path ≠ "" := fun he => hne (he ▸ rfl)
  rw [FileTree.checkPath, if_neg (by simpa using h.noZero), if_neg (by omega),
    if_neg (by simpa using hp)]

theorem ofComponents {us : List String} (h : Fits path) (hu : us.Sublist (components path))
    (hne : us ≠ []) : Fits (ofComponents (isAbsolute path) us) := by
  have hn : ∀ s ∈ us, IsName s := fun s hs => Path.isName_of_mem_components (hu.subset hs)
  have hus := hu.trans (Path.components_sublist path)
  refine ⟨?_, ?_, ?_⟩
  · have hw := weight_segments path
    have hl := weight_sublist hus
    have hs := h.size
    obtain ⟨u, us, rfl⟩ := List.exists_cons_of_ne_nil hne
    rw [weight_cons] at hl
    rw [Path.ofComponents, String.utf8ByteSize_append, size_intercalate, weight_cons]
    cases ha : isAbsolute path with
    | false => simp [ha] at hw ⊢; omega
    | true =>
      have hb : "/".utf8ByteSize = 1 := by decide
      simp [ha, hb] at hw ⊢
      omega
  · rintro hz
    obtain hz | ⟨s, hs, hz⟩ := Path.mem_ofComponents hz
    · exact absurd hz (by decide)
    · exact h.noZero (Path.subset_of_mem_segments (hus.subset hs) hz)
  · rw [Path.segments_ofComponents _ hn]
    exact fun s hs => h.names s (hus.subset hs)

end Fits

def NameFits (name : String) : Prop := FileTree.isLong name = false ∧ '\x00' ∉ name.toList

instance (name : String) : Decidable (NameFits name) := inferInstanceAs (Decidable (_ ∧ _))

theorem weight_le {cs : List String} (h : ∀ c ∈ cs, NameFits c) : weight cs ≤ 256 * cs.length := by
  induction cs with
  | nil => exact Nat.le_refl 0
  | cons c cs ih =>
    obtain ⟨hc, h⟩ := List.forall_mem_cons.1 h
    have hl : c.utf8ByteSize ≤ 255 := by simpa [FileTree.isLong] using hc.1
    have ih := ih h
    rw [weight_cons, List.length_cons]
    omega

theorem fits_ofComponents {cs : List String} (hn : ∀ c ∈ cs, IsName c) (hf : ∀ c ∈ cs, NameFits c)
    (hl : cs.length ≤ 16) : Fits (ofComponents false cs) := by
  refine ⟨?_, fun hz => ?_, ?_⟩
  · have hw := weight_le hf
    rw [Path.ofComponents, String.utf8ByteSize_append, size_intercalate]
    change 0 + _ < _
    omega
  · obtain hz | ⟨c, hc, hz⟩ := Path.mem_ofComponents hz
    · exact absurd hz (by decide)
    · exact (hf c hc).2 hz
  · rw [Path.segments_ofComponents false hn]
    exact fun c hc => (hf c hc).1

end TypedClient.Files
