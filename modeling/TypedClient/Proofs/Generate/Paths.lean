import TypedClient.Program
import TypedClient.Proofs.Files.Exactly
import TypedClient.Proofs.Generate.Groups
import TypedClient.Proofs.Generate.Resolved
import TypedClient.Proofs.Text.Slash

/-!
The paths of the generated files. A document is refused for a definition whose name is no name of a
file, and for nothing else; the files of every other document go side by side into one directory.
-/

set_option autoImplicit false

namespace TypedClient

open Api (Schema PathItem Document)
open Files (FileTree Entry Ready Fits NameFits writeFiles writeFiles_exactly)
open Files.Path (segments isAbsolute isInside endsInSlash IsName IsPlain Apart)

/-- The name is empty, or a slash, a backslash or two dots in a row stand in it. -/
def IsUnsafe (name : String) : Prop :=
  name = "" ∨ '/' ∈ name.toList ∨ '\\' ∈ name.toList ∨ ['.', '.'] <:+: name.toList

theorem hasDots_iff {s : List Char} : hasDots s = true ↔ ['.', '.'] <:+: s := by
  fun_induction hasDots s with
  | case1 s => simpa using List.infix_append' [] ['.', '.'] s
  | case2 c s h ih =>
    rw [ih, List.infix_cons_iff]
    refine (or_iff_right fun hp => ?_).symm
    obtain ⟨u, hu⟩ := hp
    obtain ⟨rfl, rfl⟩ := List.cons.inj hu
    exact h _ rfl rfl
  | case3 => simp

theorem isFileSafe_iff {name : String} : isFileSafe name = true ↔ ¬ IsUnsafe name := by
  rw [IsUnsafe, ← hasDots_iff]
  simp [isFileSafe, and_assoc]

theorem definitionFiles_find (ds : List (String × Schema)) :
    definitionFiles ds =
      match ds.find? fun e => !isFileSafe e.1 with
      | some e => .error ⟨e.1⟩
      | none => .ok (ds.map fun e => definitionFile e.1 e.2) := by
  induction ds with
  | nil => rfl
  | cons e ds ih =>
    rw [definitionFiles, List.find?_cons]
    cases hs : isFileSafe e.1 with
    | false => rfl
    | true =>
      rw [ih]
      cases ds.find? fun e => !isFileSafe e.1 <;> rfl

theorem generate_error_find {d : Document} {noDocs : Bool} {u : UnsafeName} :
    generate d noDocs = .error u ↔
      ∃ s, d.schemas.find? (fun e => !isFileSafe e.1) = some (u.name, s) := by
  rw [generate, definitionFiles_find]
  cases d.schemas.find? fun e => !isFileSafe e.1 with
  | none => exact ⟨nofun, nofun⟩
  | some e =>
    constructor
    · intro h
      cases h
      exact ⟨e.2, rfl⟩
    · rintro ⟨s, h⟩
      cases h
      rfl

/-- A document is refused by the first of its definitions that is unsafe. -/
theorem generate_error_iff {d : Document} {noDocs : Bool} {u : UnsafeName} :
    generate d noDocs = .error u ↔
      ∃ before s after, d.schemas = before ++ (u.name, s) :: after ∧
        (∀ e ∈ before, ¬ IsUnsafe e.1) ∧ IsUnsafe u.name := by
  rw [generate_error_find]
  simp only [List.find?_eq_some_iff_append, Bool.not_eq_true', Bool.not_not, isFileSafe_iff,
    ← Bool.not_eq_true, not_not]
  constructor
  · rintro ⟨s, hu, before, after, he, hb⟩
    exact ⟨before, s, after, he, hb, hu⟩
  · rintro ⟨before, s, after, he, hb, hu⟩
    exact ⟨s, hu, before, after, he, hb⟩

theorem not_isUnsafe_of_generate {d : Document} {noDocs : Bool} {files : List GeneratedFile}
    (h : generate d noDocs = .ok files) : ∀ e ∈ d.schemas, ¬ IsUnsafe e.1 := by
  rw [generate, definitionFiles_find] at h
  cases hf : d.schemas.find? fun e => !isFileSafe e.1 with
  | none =>
    intro e he
    have hs := List.find?_eq_none.1 hf e he
    exact isFileSafe_iff.1 (by simpa using hs)
  | some e =>
    rw [hf] at h
    cases h

section Inner

variable {dir name : String}

structure IsFileName (name : String) : Prop where
  isName : IsName name
  noDots : name ≠ "." ∧ name ≠ ".."

/-- With a long enough ending nothing can be a dot. -/
theorem isFileName_append {a b : String} (ha : '/' ∉ a.toList) (hb : '/' ∉ b.toList)
    (hl : 2 < b.length) : IsFileName (a ++ b) := by
  have hne {s : String} (hs : s.length ≤ 2) : a ++ b ≠ s := by
    rintro rfl
    rw [String.length_append] at hs
    omega
  exact ⟨⟨hne (by decide), by simp [ha, hb]⟩, hne (by decide), hne (by decide)⟩

theorem segments_inner (hd : IsFileName dir) (hn : IsFileName name) :
    segments (dir ++ "/" ++ name) = [dir, name] := by
  rw [Files.Path.segments_slash, Files.Path.segments_of_isName hd.isName,
    Files.Path.segments_of_isName hn.isName]
  rfl

theorem isPlain_inner (hd : IsFileName dir) (hn : IsFileName name) :
    IsPlain (dir ++ "/" ++ name) := by
  have hp : dir ++ "/" ++ name = Files.Path.ofComponents false [dir, name] := by
    simp [Files.Path.ofComponents, String.intercalate_cons_cons]
  have hall : ∀ c ∈ [dir, name], IsName c := by simp [hd.isName, hn.isName]
  have hne : name.toList ≠ [] := by simpa using hn.isName.1
  refine ⟨?_, ?_, ?_⟩
  · rw [hp, Files.Path.isAbsolute_ofComponents false hall]
  · rw [endsInSlash, String.toList_append, List.getLast?_append_of_ne_nil _ hne]
    exact Files.Path.endsInSlash_of_isName hn.isName
  · rw [segments_inner hd hn]
    have := hd.noDots
    have := hn.noDots
    grind

end Inner

theorem slash_not_mem_groupOf (item : PathItem) : '/' ∉ (groupOf item).toList := by
  have h {group : String} (h : Filed item group) : '/' ∉ group.toList := by
    cases h with
    | tagged => exact Text.slash_not_mem_pascalCase _
    | _ => decide
  exact h (filed_groupOf item)

structure GeneratedFile.StandsIn (f : GeneratedFile) (dir name : String) : Prop where
  path : f.path = dir ++ "/" ++ name
  dir : IsFileName dir
  name : IsFileName name

/-- The file stands in one of the directories, or is the note beside them. -/
inductive GeneratedFile.Placed (f : GeneratedFile) : Prop where
  | inner {dir name : String} (h : f.StandsIn dir name) (hd : dir ≠ "README.md")
  | note (h : f.path = "README.md")

section Placed

variable {f g : GeneratedFile} {dir name : String}

theorem GeneratedFile.StandsIn.segments (h : f.StandsIn dir name) :
    segments f.path = [dir, name] := by
  rw [h.path, segments_inner h.dir h.name]

theorem segments_note : segments "README.md" = ["README.md"] := by decide

theorem GeneratedFile.Placed.isPlain (h : f.Placed) : IsPlain f.path := by
  cases h with
  | inner h hd => exact h.path ▸ isPlain_inner h.dir h.name
  | note h => exact h ▸ ⟨by decide, by decide, by decide⟩

theorem GeneratedFile.Placed.fits (h : f.Placed) {base : String} (hb : IsFileName base)
    (hbf : NameFits base) (hf : ∀ s ∈ segments f.path, NameFits s) :
    Fits (Files.Path.join base f.path) := by
  have hp : f.path = Files.Path.ofComponents false (segments f.path) ∧
      (segments f.path).length ≤ 2 := by
    cases h with
    | inner h =>
      rw [h.segments, h.path]
      exact ⟨by simp [Files.Path.ofComponents, String.intercalate_cons_cons], Nat.le_refl 2⟩
    | note h =>
      rw [h]
      decide
  rw [Files.Path.join_of_isName hb.isName h.isPlain.relative, hp.1,
    ← Files.Path.ofComponents_cons base h.isPlain.names.1]
  refine Files.fits_ofComponents (List.forall_mem_cons.2 ⟨hb.isName, fun s hs => ?_⟩)
    (List.forall_mem_cons.2 ⟨hbf, hf⟩) ?_
  · exact Files.Path.isName_of_mem_segments hs
  · rw [List.length_cons]
    omega

theorem GeneratedFile.Placed.path_eq (hf : f.Placed) (hg : g.Placed)
    (h : segments f.path <+: segments g.path) : f.path = g.path := by
  cases hf with
  | inner hf hd =>
    cases hg with
    | inner hg =>
      have he := h.eq_of_length (by rw [hf.segments, hg.segments]; rfl)
      rw [hf.segments, hg.segments] at he
      simp only [List.cons.injEq, and_true] at he
      rw [hf.path, hg.path, he.1, he.2]
    | note hg =>
      rw [hg, segments_note, hf.segments] at h
      exact absurd h.length_le (by simp)
  | note hf =>
    cases hg with
    | inner hg hd =>
      rw [hf, segments_note, hg.segments] at h
      exact absurd (List.cons_prefix_cons.1 h).1.symm hd
    | note hg => rw [hf, hg]

end Placed

/-- The files stand side by side: no path leads anywhere but down, and none through another. -/
structure Sound (files : List GeneratedFile) : Prop where
  plain : ∀ f ∈ files, IsPlain f.path
  apart : files.Pairwise fun f g => Apart f.path g.path

theorem Sound.of_placed {files : List GeneratedFile} (h : ∀ f ∈ files, f.Placed)
    (hn : (files.map GeneratedFile.path).Nodup) : Sound files := by
  refine ⟨fun f hf => (h f hf).isPlain, ?_⟩
  rw [List.Nodup, List.pairwise_map] at hn
  refine hn.imp_of_mem fun {f g} hf hg hne => ?_
  exact ⟨fun hfg => hne ((h f hf).path_eq (h g hg) hfg),
    fun hgf => hne ((h g hg).path_eq (h f hf) hgf).symm⟩

theorem Sound.nodup {files : List GeneratedFile} (h : Sound files) :
    (files.map GeneratedFile.path).Nodup := by
  rw [List.Nodup, List.pairwise_map]
  exact h.apart.imp fun ha he => ha.ne (by rw [he])

def GeneratedFile.entry (f : GeneratedFile) : String × String := (f.path, f.content)

theorem Sound.written {files : List GeneratedFile} (h : Sound files) {t : FileTree} {base : String}
    (hr : Ready t base (files.map GeneratedFile.path))
    (hf : ∀ f ∈ files, Fits (Files.Path.join base f.path)) :
    ∃ t', (writeFiles base (files.map GeneratedFile.entry) : StateM FileTree _).run t =
        (.ok (), t') ∧
      (t'.filesBelow (t.place base)).Perm
        (files.map fun f => (segments f.path, .text f.content)) := by
  have hplain : ∀ e ∈ files.map GeneratedFile.entry, IsPlain e.1 := List.forall_mem_map.2 h.plain
  have hapart : (files.map GeneratedFile.entry).Pairwise fun e e' => Apart e.1 e'.1 :=
    List.pairwise_map.2 h.apart
  have hready : Ready t base ((files.map GeneratedFile.entry).map Prod.fst) := by
    rw [List.map_map]
    exact hr
  have hfits : ∀ e ∈ files.map GeneratedFile.entry, Fits (Files.Path.join base e.1) :=
    List.forall_mem_map.2 hf
  obtain ⟨t', hw, hp⟩ := writeFiles_exactly hplain hapart hready hfits
  rw [List.map_map] at hp
  exact ⟨t', hw, hp⟩

def definitionPath (name : String) : String := "definitions/" ++ name ++ ".ts"

theorem definitionPath_inj {n n' : String} : definitionPath n = definitionPath n' ↔ n = n' := by
  rw [definitionPath, definitionPath, String.append_left_inj, String.append_right_inj]

theorem clientFile_standsIn : clientFile.StandsIn "client" "client.ts" :=
  ⟨by decide, ⟨by decide, by decide⟩, by decide, by decide⟩

theorem definitionFile_standsIn {name : String} (s : Schema) (h : ¬ IsUnsafe name) :
    (definitionFile name s).StandsIn "definitions" (name ++ ".ts") := by
  have hp : "definitions/" = "definitions" ++ "/" := by decide
  have hn : '/' ∉ name.toList := fun hm => h (.inr (.inl hm))
  refine ⟨?_, ⟨by decide, by decide⟩, isFileName_append hn (by decide) (by decide)⟩
  change "definitions/" ++ name ++ ".ts" = _
  rw [hp, String.append_assoc]

theorem controllerFile_standsIn (noDocs : Bool) {group : String} (paths : OrderedMap PathItem)
    (h : '/' ∉ group.toList) :
    (controllerFile noDocs group paths).StandsIn "controllers" (group ++ "Controller.ts") := by
  have hp : "controllers/" = "controllers" ++ "/" := by decide
  refine ⟨?_, ⟨by decide, by decide⟩, isFileName_append h (by decide) (by decide)⟩
  rw [controllerFile_path, controllerPath, hp, String.append_assoc]

def clientPaths (d : Document) : List String :=
  clientFile.path :: d.schemas.map (fun e => definitionPath e.1) ++
    (groups d.paths).keys.map controllerPath

theorem append_ne_append {a b : String} (hab : ¬ a.toList <+: b.toList)
    (hba : ¬ b.toList <+: a.toList) (x y : String) : a ++ x ≠ b ++ y := by
  intro he
  have ht := congrArg String.toList he
  rw [String.toList_append, String.toList_append] at ht
  have hp : b.toList <+: a.toList ++ x.toList := ht ▸ List.prefix_append _ _
  exact (List.prefix_or_prefix_of_prefix (List.prefix_append _ _) hp).elim hab hba

theorem nodup_clientPaths (d : Document) : (clientPaths d).Nodup := by
  have hclient : clientFile.path = "client/" ++ "client.ts" := by decide
  have hcd (n : String) : clientFile.path ≠ definitionPath n := by
    rw [hclient, definitionPath, String.append_assoc]
    exact append_ne_append (by decide) (by decide) _ _
  have hcc (g : String) : clientFile.path ≠ controllerPath g := by
    rw [hclient, controllerPath, String.append_assoc]
    exact append_ne_append (by decide) (by decide) _ _
  have hdc (n g : String) : definitionPath n ≠ controllerPath g := by
    rw [definitionPath, controllerPath, String.append_assoc, String.append_assoc]
    exact append_ne_append (by decide) (by decide) _ _
  have hds : (d.schemas.map fun e => definitionPath e.1).Nodup := by
    have hn := (d.definitions.getD .empty).distinct.map (f := definitionPath)
      fun _ _ => definitionPath_inj.1
    rwa [Entries.keys, List.map_map] at hn
  have hgs := (groups d.paths).distinct.map (f := controllerPath) fun _ _ => controllerPath_inj.1
  rw [clientPaths, List.cons_append, List.nodup_cons]
  refine ⟨?_, List.nodup_append.2 ⟨hds, hgs, ?_⟩⟩
  · rw [List.mem_append, List.mem_map, List.mem_map]
    rintro (⟨e, -, he⟩ | ⟨g, -, he⟩)
    · exact hcd e.1 he.symm
    · exact hcc g he.symm
  · intro p hp q hq
    obtain ⟨e, -, rfl⟩ := List.mem_map.1 hp
    obtain ⟨g, -, rfl⟩ := List.mem_map.1 hq
    exact hdc e.1 g

/-- The note stands in none of the directories. -/
theorem readmePath_not_mem (d : Document) : readmeFile.path ∉ clientPaths d := by
  have hd (n : String) : definitionPath n ≠ readmeFile.path ++ "" := by
    rw [definitionPath, String.append_assoc]
    exact append_ne_append (by decide) (by decide) _ _
  have hc (g : String) : controllerPath g ≠ readmeFile.path ++ "" := by
    rw [controllerPath, String.append_assoc]
    exact append_ne_append (by decide) (by decide) _ _
  rw [clientPaths, List.mem_append, List.mem_cons, List.mem_map, List.mem_map]
  rintro ((h | ⟨e, -, h⟩) | ⟨g, -, h⟩)
  · exact absurd h (by decide)
  · exact hd e.1 (by rw [h, String.append_empty])
  · exact hc g (by rw [h, String.append_empty])

section Generated

variable {d : Document} {noDocs : Bool} {files : List GeneratedFile}

theorem generate_paths_eq (h : generate d noDocs = .ok files) :
    files.map GeneratedFile.path = clientPaths d := by
  rw [generate_eq h, clientPaths, OrderedMap.keys, Entries.keys]
  simp only [List.cons_append, List.map_cons, List.map_append, List.map_map]
  congr 2
  exact List.map_congr_left fun e _ => controllerFile_path noDocs e.1 e.2

theorem generate_placed (h : generate d noDocs = .ok files) : ∀ f ∈ files, f.Placed := by
  rw [generate_eq h]
  simp only [List.cons_append, List.forall_mem_cons, List.forall_mem_append, List.forall_mem_map]
  refine ⟨.inner clientFile_standsIn (by decide), fun e he => ?_, fun e he => ?_⟩
  · exact .inner (definitionFile_standsIn e.2 (not_isUnsafe_of_generate h e he)) (by decide)
  · have hg : '/' ∉ e.1.toList := by
      have hk : e.1 ∈ (groups d.paths).keys := List.mem_map_of_mem he
      rw [(grouped_groups d.paths).order, mem_distinct] at hk
      obtain ⟨p, -, hp⟩ := List.mem_map.1 hk
      rw [← hp]
      exact slash_not_mem_groupOf p.2
    exact .inner (controllerFile_standsIn noDocs e.2 hg) (by decide)

theorem sound_of_generate (h : generate d noDocs = .ok files) {all : List GeneratedFile}
    (ha : all = files ∨ all = files ++ [readmeFile]) : Sound all := by
  have hp := generate_placed h
  have hn : (files.map GeneratedFile.path).Nodup := by
    rw [generate_paths_eq h]
    exact nodup_clientPaths d
  rcases ha with rfl | rfl
  · exact .of_placed hp hn
  · refine .of_placed (fun f hf => ?_) ?_
    · rcases List.mem_append.1 hf with hf | hf
      · exact hp f hf
      · exact .note (List.mem_singleton.1 hf ▸ rfl)
    · rw [List.map_append, List.nodup_append]
      refine ⟨hn, List.nodup_singleton _, fun p hm q hq => ?_⟩
      rw [List.mem_singleton.1 hq]
      rintro rfl
      rw [generate_paths_eq h] at hm
      exact readmePath_not_mem d hm

end Generated

/-- A document is refused by the first of its definitions with an unsafe name, and for nothing else.
The files of any other, the note among them or not, have paths of their own that lead nowhere but
down and not through each other; written below a base that has nothing in it and nothing in the way
of it, they are all that is there. -/
theorem generate_written (d : Document) (noDocs : Bool) :
    (∀ u, generate d noDocs = .error u ↔
      ∃ before s after, d.schemas = before ++ (u.name, s) :: after ∧
        (∀ e ∈ before, ¬ IsUnsafe e.1) ∧ IsUnsafe u.name) ∧
    ((∃ files, generate d noDocs = .ok files) ↔ ∀ e ∈ d.schemas, ¬ IsUnsafe e.1) ∧
    ∀ files, generate d noDocs = .ok files →
      files.map GeneratedFile.path = clientPaths d ∧
      ∀ all, all = files ∨ all = files ++ [readmeFile] →
        (all.map GeneratedFile.path).Nodup ∧
        all.Pairwise (fun f g => Apart f.path g.path) ∧
        (∀ f ∈ all, isInside f.path = true) ∧
        ∀ (t : FileTree) (base : String), Ready t base (all.map GeneratedFile.path) →
          (∀ f ∈ all, Fits (Files.Path.join base f.path)) →
          ∃ t', (writeFiles base (all.map fun f => (f.path, f.content)) : StateM FileTree _).run t =
              (.ok (), t') ∧
            (t'.filesBelow (t.place base)).Perm
              (all.map fun f => (segments f.path, .text f.content)) := by
  refine ⟨fun u => generate_error_iff, ⟨fun ⟨files, h⟩ => not_isUnsafe_of_generate h, fun h => ?_⟩,
    fun files h => ⟨generate_paths_eq h, fun all ha => ?_⟩⟩
  · cases hg : generate d noDocs with
    | error u =>
      obtain ⟨before, s, after, he, -, hu⟩ := generate_error_iff.1 hg
      exact absurd hu (h _ (he ▸ List.mem_append_right before List.mem_cons_self))
    | ok files => exact ⟨files, rfl⟩
  · have hs := sound_of_generate h ha
    refine ⟨hs.nodup, hs.apart, fun f hf => ?_, fun t base hr hf => hs.written hr hf⟩
    rw [← Bool.not_eq_false, Files.Path.isInside_eq_false_iff]
    exact (hs.plain f hf).not_leaves

theorem ownedPetDocument_written :
    ∃ files t', generate ownedPetDocument true = .ok files ∧
      (writeFiles "out" ((files ++ [readmeFile]).map GeneratedFile.entry) : StateM FileTree _).run
        .empty = (.ok (), t') ∧
      (t'.filesBelow ["out"]).length = 5 := by
  obtain ⟨files, h⟩ : ∃ files, generate ownedPetDocument true = .ok files := ⟨_, rfl⟩
  obtain ⟨hpaths, hall⟩ := (generate_written ownedPetDocument true).2.2 files h
  obtain ⟨-, -, -, hwrite⟩ := hall _ (.inr rfl)
  have hlist : (files ++ [readmeFile]).map GeneratedFile.path =
      ["client/client.ts", "definitions/Pet.ts", "definitions/Owner.ts",
        "controllers/PetsController.ts", "README.md"] := by
    rw [List.map_append, hpaths]
    decide +kernel
  have hplain : ∀ p ∈ (files ++ [readmeFile]).map GeneratedFile.path,
      segments p ≠ [] ∧ Fits (Files.Path.join "out" p) := by
    rw [hlist]
    decide +kernel
  obtain ⟨t', hw, hp⟩ := hwrite .empty "out"
    (.of_name (by decide) (by decide) (.inr rfl) (fun _ => rfl) fun p hm => (hplain p hm).1)
    fun f hf => (hplain _ (List.mem_map_of_mem hf)).2
  refine ⟨files, t', h, hw, ?_⟩
  have hl := congrArg List.length hlist
  rw [List.length_map] at hl
  have hlength := hp.length_eq
  rwa [List.length_map, hl] at hlength

def bareDocument : Document where
  version := "2.0"
  info := ⟨"Bare", none, "1"⟩
  host := none
  basePath := none
  definitions := none
  paths := .empty
  tags := []

def treeOf (name content : String) : FileTree :=
  FileTree.empty.put [] name (.text content) rfl (Option.some_ne_none _).symm

def notesTree : FileTree := treeOf "notes" ""

def nameOf (n : Nat) : String := String.ofList (List.replicate n 'd')

theorem size_nameOf (n : Nat) : (nameOf n).utf8ByteSize = n := by
  have hb : Files.bytes ['d'] = 1 := by decide
  have hn := Files.bytes_replicate n 'd'
  rw [hb, Nat.mul_one] at hn
  exact hn

theorem isFileName_nameOf {n : Nat} (h : 2 < n) : IsFileName (nameOf n) := by
  have hne {s : String} (hs : s.utf8ByteSize ≤ 2) : nameOf n ≠ s := by
    rintro rfl
    rw [size_nameOf] at hs
    omega
  refine ⟨⟨hne (by decide), ?_⟩, hne (by decide), hne (by decide)⟩
  rw [nameOf, String.toList_ofList, List.mem_replicate]
  exact fun hm => absurd hm.2 (by decide)

def deepBase : String := "/".intercalate (List.replicate 17 (nameOf 255))

theorem size_deepBase : deepBase.utf8ByteSize = 4351 := by
  rw [deepBase, Files.size_intercalate, Files.weight_replicate, size_nameOf]

theorem segments_deepBase : segments deepBase = List.replicate 17 (nameOf 255) := by
  have hall : ∀ c ∈ List.replicate 17 (nameOf 255), IsName c := fun c hc => by
    rw [List.eq_of_mem_replicate hc]
    exact (isFileName_nameOf (by decide)).isName
  have hs := Files.Path.segments_ofComponents false hall
  rwa [Files.Path.ofComponents, if_neg Bool.false_ne_true, String.empty_append] at hs

theorem deepBase_absent : FileTree.empty.get? (FileTree.empty.place deepBase) = none := by
  have hn : IsFileName (nameOf 255) := isFileName_nameOf (by decide)
  have hd : ".." ∉ segments deepBase := by
    rw [segments_deepBase]
    exact fun hm => hn.noDots.2 (List.eq_of_mem_replicate hm).symm
  have hm : nameOf 255 ∈ segments deepBase := by
    rw [segments_deepBase]
    exact List.mem_replicate.2 ⟨by decide, rfl⟩
  have hp : nameOf 255 ∈ FileTree.empty.place deepBase := by
    rw [FileTree.place, FileTree.follow_eq_append hd, List.mem_append]
    exact .inr (List.mem_filter.2 ⟨hm, decide_eq_true hn.noDots.1⟩)
  rw [FileTree.get?, Files.entryAt?, if_neg (List.ne_nil_of_mem hp)]
  rfl

theorem deepBase_unwritten (t : FileTree) (f : GeneratedFile) (h : IsPlain f.path) :
    ((writeFiles deepBase [f.entry] : StateM FileTree _).run t).1.isOk = false := by
  rw [Files.writeFiles_inside (List.forall_mem_singleton.2 h.not_leaves)]
  cases hw : (Files.writeEach deepBase [f.entry] : StateM FileTree _).run t with
  | mk r t' =>
    cases r with
    | error e => rfl
    | ok u =>
      have hc := Files.checkPath_of_writeEach hw f.entry List.mem_cons_self
      have hs := Files.size_of_checkPath hc
      have hl : deepBase.utf8ByteSize ≤ (Files.Path.join deepBase f.path).utf8ByteSize :=
        Files.size_le_join h.relative
      rw [size_deepBase] at hl
      exact absurd hs (Nat.not_lt.2 (Nat.le_trans (by decide) hl))

/-- Where nothing stands, nothing may be able to stand either: below a file, where the way passes
the place of a file that is yet to be written, and where the path is too long. -/
theorem bareDocument_unwritten :
    generate bareDocument true = .ok [clientFile] ∧
    (notesTree.get? (notesTree.place "notes/out") = none ∧
      ((writeFiles "notes/out" [clientFile.entry] : StateM FileTree _).run notesTree).1.isOk =
        false) ∧
    (FileTree.empty.get? (FileTree.empty.place "out/README.md/..") = none ∧
      ((writeFiles "out/README.md/.." [clientFile.entry, readmeFile.entry] :
        StateM FileTree _).run .empty).1.isOk = false) ∧
    (FileTree.empty.get? (FileTree.empty.place deepBase) = none ∧
      ((writeFiles deepBase [clientFile.entry] : StateM FileTree _).run .empty).1.isOk = false) := by
  refine ⟨rfl, ⟨by decide, by decide +kernel⟩, ⟨by decide, by decide +kernel⟩, deepBase_absent, ?_⟩
  exact deepBase_unwritten _ _ (GeneratedFile.Placed.inner clientFile_standsIn (by decide)).isPlain

end TypedClient
