import TypedClient.Proofs.Generate.Paths

/-!
Two commands of the program that read the same document. One only tells whether it is valid, the
other writes its client; they agree on which documents are.
-/

set_option autoImplicit false

namespace TypedClient

open Api (Document)
open Files (FileTree FileError Access Ready Fits NameFits writeFiles)
open Files.Path (segments isAbsolute)

/-- A dash with something after it. -/
def IsOption (s : String) : Prop := ∃ c cs, s.toList = '-' :: c :: cs

theorem ofText_other_iff {s : String} : Command.Argument.ofText s = .other ↔ ¬ IsOption s := by
  unfold Command.Argument.ofText
  split
  · next h => exact iff_of_false nofun (not_not_intro ⟨_, _, h⟩)
  · next h =>
    refine iff_of_false ?_ (not_not_intro ⟨_, _, h⟩)
    split <;> exact nofun
  · next h => exact iff_of_false nofun (not_not_intro ⟨_, _, h⟩)
  · next h => exact iff_of_true rfl fun ⟨c, cs, hs⟩ => h c cs hs

theorem isValue_iff {s : String} : Command.isValue s = true ↔ s ≠ "" ∧ ¬ IsOption s := by
  simp [Command.isValue, ofText_other_iff, and_comm]

section Arguments

variable {input output : String}

open Command (Argument inputOption outputOption parse)

theorem ofText_input : Argument.ofText "-i" = .letter 'i' "" := by decide

theorem ofText_output : Argument.ofText "-o" = .letter 'o' "" := by decide

theorem ofArguments?_validate (h : Command.isValue input = true) :
    Command.ofArguments? ["validate", "-i", input] = some (.validate input) := by
  have hc : Argument.ofText "validate" = .other := by decide
  have hp : parse [inputOption] [] ["-i", input] = .given [(inputOption, input)] := by
    simp [parse, ofText_input, inputOption, h, Command.Parsed.add]
  simp only [Command.ofArguments?, hc, hp]
  rfl

theorem ofArguments?_generate (hi : Command.isValue input = true)
    (ho : Command.isValue output = true) :
    Command.ofArguments? ["generate", "-i", input, "-o", output] =
      some (.generate (some input) (some output)) := by
  have hc : Argument.ofText "generate" = .other := by decide
  have hp : parse [inputOption, outputOption] [] ["-i", input, "-o", output] =
      .given [(inputOption, input), (outputOption, output)] := by
    simp [parse, ofText_input, ofText_output, inputOption, outputOption, hi, ho, Command.Parsed.add]
  simp only [Command.ofArguments?, hc, hp]
  rfl

end Arguments

section Reading

variable {t : FileTree} {input : String}

theorem isThere_config (h : t.get? (t.here ++ [Config.fileName]) = none) :
    t.isThere Config.fileName = false := by
  have hs : Files.Path.segments Config.fileName = [] ++ [Config.fileName] := by decide
  have ht : t.target Config.fileName = .ok (.name t.here Config.fileName) :=
    FileTree.target_concat rfl hs
  simp [FileTree.isThere, ht, h]

theorem loadConfig_missing (h : t.get? (t.here ++ [Config.fileName]) = none) :
    (loadConfig Config.fileName : StateM FileTree _).run t = (.ok none, t) := by
  have hi : (Access.isThere Config.fileName : StateM FileTree _).run t =
      (t.isThere Config.fileName, t) := rfl
  rw [loadConfig, StateT.run_bind, hi, isThere_config h]
  rfl

theorem run_read (path : String) (t : FileTree) :
    (Access.read path : StateM FileTree _).run t = (t.read path, t) := rfl

theorem run_loadDocument [Wording] (input : String) (t : FileTree) :
    ((loadDocument input : StateM FileTree _).run t).2 = t := by
  rw [loadDocument, StateT.run_bind, run_read]
  cases t.read input <;> rfl

theorem exists_loadDocument [Wording] (input : String) (t : FileTree) :
    ∃ r, (loadDocument input : StateM FileTree _).run t = (r, t) :=
  ⟨_, Prod.ext rfl (run_loadDocument input t)⟩

end Reading

section Commands

variable {t : FileTree} {input output : String}

def validation : Except Failure Document → Outcome
  | .error f => .failed "" f
  | .ok d =>
    match generate d false with
    | .error u => .failed (summary d) (.ofName u)
    | .ok files => .done (summary d ++ s!"  Files: {files.length}\nValidation successful.\n")

theorem run_validate [Wording] {r : Except Failure Document} (hi : Command.isValue input = true)
    (hr : (loadDocument input : StateM FileTree _).run t = (r, t)) :
    (run ["validate", "-i", input] : StateM FileTree _).run t = (validation r, t) := by
  rw [run, ofArguments?_validate hi]
  change (runValidate input : StateM FileTree _).run t = _
  rw [runValidate, StateT.run_bind, hr]
  cases r with
  | error f => rfl
  | ok d =>
    rw [validation]
    change StateT.run (match generate d false with | .error u => _ | .ok files => _) t = _
    cases generate d false <;> rfl

def generatingLine (input output : String) : String := s!"Generating {input} → {output}\n"

/-- What generating from a document that was read, or not, tells and leaves behind. -/
def generation (t : FileTree) (input output : String) :
    Except Failure Document → Outcome × FileTree
  | .error f => (.failed "" f, t)
  | .ok d =>
    match generate d false with
    | .error u => (.failed (generatingLine input output) (.ofName u), t)
    | .ok files => (writeClient input output (files ++ [readmeFile]) : StateM FileTree _).run t

theorem run_generate [Wording] {r : Except Failure Document}
    (hi : Command.isValue input = true)
    (ho : Command.isValue output = true) (hc : t.get? (t.here ++ [Config.fileName]) = none)
    (hr : (loadDocument input : StateM FileTree _).run t = (r, t)) :
    (run ["generate", "-i", input, "-o", output] : StateM FileTree _).run t =
      generation t input output r := by
  rw [run, ofArguments?_generate hi ho]
  change (runGenerate (some input) (some output) : StateM FileTree _).run t = _
  rw [runGenerate, StateT.run_bind, loadConfig_missing hc]
  change ((loadDocument input : StateM FileTree _) >>= _).run t = _
  rw [StateT.run_bind, hr]
  cases r with
  | error f => rfl
  | ok d =>
    rw [generation]
    change StateT.run (match clientFiles d Config.default with | .error u => _ | .ok files => _) t =
      _
    rw [clientFiles, show Config.default.noDocs = false from rfl]
    cases generate d false <;> rfl

end Commands

section Writing

variable {t : FileTree} {output : String} {files : List GeneratedFile}

theorem fits_name (hn : IsFileName output) (hf : NameFits output) : Fits output := by
  have h := Files.fits_ofComponents (List.forall_mem_singleton.2 hn.isName)
    (List.forall_mem_singleton.2 hf) (Nat.le_of_ble_eq_true rfl)
  have ho : Files.Path.ofComponents false [output] = output := by simp [Files.Path.ofComponents]
  rwa [ho] at h

/-- A directory is made where nothing stands, and nothing is in it. -/
theorem ensureDirectories_name (hn : IsFileName output) (hf : NameFits output)
    (hfree : t.get? (t.here ++ [output]) = none) :
    ∃ t', (Files.ensureDirectories output : StateM FileTree _).run t = (.ok (), t') ∧
      t'.here = t.here ∧ t'.get? (t.here ++ [output]) = some .directory ∧
      ∀ name, t'.get? (t.here ++ [output] ++ [name]) = none := by
  have hs : segments output = [] ++ [output] := Files.Path.segments_of_isName hn.isName
  have hplace : t.place output = t.here ++ [output] := Files.place_name hn.isName hn.noDots
  have hv (name : String) := FileTree.get?_append_of_none hfree [name]
  have hr : Ready t output [] := .of_name hn.isName hn.noDots (.inr hfree) hv nofun
  have hc : t.Clear (t.start (isAbsolute output)) ([] ++ [output]) := fun q hq =>
    (hr.way q (hs ▸ hq)).1
  obtain ⟨t', h⟩ := (Files.run_ensureDirectory_clear (fits_name hn hf) hs hc).resolve_right fun h =>
    h.2 (FileTree.open_nil (FileTree.get?_start _))
  obtain ⟨hg, ho⟩ := Files.ensureDirectory_spec h
  refine ⟨t', ?_, hg.here, ?_, fun name => ?_⟩
  · rw [Files.ensureDirectories, if_neg (by simp [hn.isName.1]), StateT.run_bind, h]
    rfl
  · rw [← hplace]
    exact ho rfl _ FileTree.onWay_end
  · rcases hg.get (t.here ++ [output] ++ [name]) with he | ⟨he, -, -⟩
    · rw [he, hv]
    · rw [hplace] at he
      exact absurd (List.append_right_eq_self.1 he) (List.cons_ne_nil _ _)

def generatedText (input output : String) (files : List GeneratedFile) : String :=
  generatingLine input output ++ String.join (files.map (wroteLine output)) ++
    s!"Generated {files.length} files in {output}\n"

theorem writeClient_done (input : String) (hs : Sound files) (hp : ∀ f ∈ files, f.Placed)
    (hn : IsFileName output) (hf : NameFits output)
    (hfiles : ∀ f ∈ files, ∀ s ∈ segments f.path, NameFits s)
    (hfree : t.get? (t.here ++ [output]) = none) :
    ∃ t', (writeClient input output files : StateM FileTree _).run t =
        (.done (generatedText input output files), t') ∧
      (t'.filesBelow (t.here ++ [output])).Perm
        (files.map fun f => (segments f.path, .text f.content)) := by
  obtain ⟨t₁, h₁, hh, hd, hv⟩ := ensureDirectories_name hn hf hfree
  rw [← hh] at hd hv
  have hr : Ready t₁ output (files.map GeneratedFile.path) :=
    .of_name hn.isName hn.noDots (.inl hd) hv
      (List.forall_mem_map.2 fun f hm => (hs.plain f hm).names.1)
  obtain ⟨t', hw, hperm⟩ := hs.written hr fun f hm => (hp f hm).fits hn hf (hfiles f hm)
  rw [Files.place_name hn.isName hn.noDots, hh] at hperm
  refine ⟨t', ?_, hperm⟩
  rw [writeClient, StateT.run_bind, h₁]
  change ((writeFiles output (files.map GeneratedFile.entry) : StateM FileTree _) >>= _).run t₁ = _
  rw [StateT.run_bind, hw]
  rfl

end Writing

theorem not_note_of_generate {d : Document} {noDocs : Bool} {files : List GeneratedFile}
    (h : generate d noDocs = .ok files) : ∀ f ∈ files, segments f.path ≠ ["README.md"] := by
  intro f hf he
  cases generate_placed h f hf with
  | inner hs => simp [hs.segments] at he
  | note hp =>
    have hm : f.path ∈ clientPaths d := generate_paths_eq h ▸ List.mem_map_of_mem hf
    rw [hp] at hm
    exact readmePath_not_mem d hm

/-- What is listed beside the note are the files of the document. -/
theorem length_listed {files : List GeneratedFile} {listed : List (List String × Files.Entry)}
    (hne : ∀ f ∈ files, segments f.path ≠ ["README.md"])
    (h : listed.Perm ((files ++ [readmeFile]).map fun f => (segments f.path, .text f.content))) :
    (listed.filter fun e => e.1 ≠ ["README.md"]).length = files.length := by
  have hnote : segments readmeFile.path = ["README.md"] := segments_note
  have hall : files.filter (fun f => segments f.path ≠ ["README.md"]) = files :=
    List.filter_eq_self.2 fun f hf => decide_eq_true (hne f hf)
  rw [(h.filter _).length_eq, List.filter_map, List.length_map, List.filter_append]
  change (files.filter (fun f => segments f.path ≠ ["README.md"]) ++ [readmeFile].filter fun f =>
    segments f.path ≠ ["README.md"]).length = _
  rw [hall, List.filter_cons_of_neg (by simp [hnote]), List.filter_nil, List.append_nil]

/-- Where there is no configuration, a document is valid exactly when its client is generated, and
then there are as many files as validating it told, and the note. A document that is not valid is
reported in the same words, and nothing is written. -/
theorem verdicts_agree [Wording] {t : FileTree} {input output : String}
    (hconfig : t.get? (t.here ++ [Config.fileName]) = none) (hinput : input ≠ "" ∧ ¬ IsOption input)
    (houtput : IsFileName output ∧ ¬ IsOption output ∧ NameFits output)
    (hfree : t.get? (t.here ++ [output]) = none)
    (hnames : ∀ d files, ((loadDocument input : StateM FileTree _).run t).1 = .ok d →
      generate d false = .ok files → ∀ f ∈ files, ∀ s ∈ segments f.path, NameFits s) :
    ∃ v g t', (run ["validate", "-i", input] : StateM FileTree _).run t = (v, t) ∧
      (run ["generate", "-i", input, "-o", output] : StateM FileTree _).run t = (g, t') ∧
      (v.code = 0 ↔ g.code = 0) ∧
      (v.code = 0 → ∃ d n, v.errors = summary d ++ s!"  Files: {n}\nValidation successful.\n" ∧
        ((t'.filesBelow (t.here ++ [output])).filter fun e => e.1 ≠ ["README.md"]).length = n) ∧
      (v.code ≠ 0 → t' = t ∧ ∃ f told told', v = .failed told f ∧ g = .failed told' f ∧
        (told = "" ∧ told' = "" ∨
          (∃ d, told = summary d) ∧ told' = s!"Generating {input} → {output}\n")) := by
  have hi := isValue_iff.2 hinput
  have ho : Command.isValue output = true := isValue_iff.2 ⟨houtput.1.isName.1, houtput.2.1⟩
  obtain ⟨r, hr⟩ := exists_loadDocument input t
  have hv := run_validate hi hr
  have hg := run_generate hi ho hconfig hr
  rw [hr] at hnames
  cases r with
  | error f =>
    exact ⟨_, _, t, hv, hg, iff_of_false Nat.one_ne_zero Nat.one_ne_zero,
      fun h => absurd h Nat.one_ne_zero, fun _ => ⟨rfl, f, "", "", rfl, rfl, .inl ⟨rfl, rfl⟩⟩⟩
  | ok d =>
    cases hgen : generate d false with
    | error u =>
      simp only [validation, generation, hgen] at hv hg
      exact ⟨_, _, t, hv, hg, iff_of_false Nat.one_ne_zero Nat.one_ne_zero,
        fun h => absurd h Nat.one_ne_zero,
        fun _ => ⟨rfl, .ofName u, _, _, rfl, rfl, .inr ⟨⟨d, rfl⟩, rfl⟩⟩⟩
    | ok files =>
      simp only [validation, generation, hgen] at hv hg
      have hs := sound_of_generate hgen (.inr rfl)
      have hplaced : ∀ f ∈ files ++ [readmeFile], f.Placed := List.forall_mem_append.2
        ⟨generate_placed hgen, List.forall_mem_singleton.2 (.note rfl)⟩
      have hnames : ∀ f ∈ files ++ [readmeFile], ∀ s ∈ segments f.path, NameFits s :=
        List.forall_mem_append.2 ⟨hnames d files rfl hgen, List.forall_mem_singleton.2 (by decide)⟩
      obtain ⟨t', hw, hperm⟩ :=
        writeClient_done input hs hplaced houtput.1 houtput.2.2 hnames hfree
      rw [hw] at hg
      exact ⟨_, _, t', hv, hg, iff_of_true rfl rfl,
        fun _ => ⟨d, files.length, rfl, length_listed (not_note_of_generate hgen) hperm⟩,
        fun h => absurd rfl h⟩

def petsText : String :=
  "\x7b\"swagger\":\"2.0\",\"info\":\x7b\"title\":\"Pets\",\"version\":\"1\"\x7d," ++
    "\"definitions\":\x7b\"Pet\":\x7b\"type\":\"string\"\x7d\x7d," ++
    "\"paths\":\x7b\"/pets\":\x7b\"get\":\x7b\"tags\":[\"pets\"]," ++
    "\"responses\":\x7b\x7d\x7d\x7d\x7d\x7d"

def petsTree : FileTree := treeOf "pets.json" petsText

theorem petsTree_verdict :
    ∃ v g t',
      (run ["validate", "-i", "pets.json"] : StateM FileTree _).run petsTree = (v, petsTree) ∧
      (run ["generate", "-i", "pets.json", "-o", "out"] : StateM FileTree _).run petsTree =
        (g, t') ∧
      v.code = 0 ∧ g.code = 0 := by
  have hload :
      ((loadDocument "pets.json" : StateM FileTree _).run petsTree).1.toOption.map clientPaths =
        some ["client/client.ts", "definitions/Pet.ts", "controllers/PetsController.ts"] := by
    decide +kernel
  have hnames : ∀ d files, ((loadDocument "pets.json" : StateM FileTree _).run petsTree).1 = .ok d →
      generate d false = .ok files → ∀ f ∈ files, ∀ s ∈ segments f.path, NameFits s := by
    intro d files hd hg f hf
    rw [hd] at hload
    have hm : f.path ∈ clientPaths d := generate_paths_eq hg ▸ List.mem_map_of_mem hf
    rw [Option.some.inj hload] at hm
    exact (show ∀ p ∈ ["client/client.ts", "definitions/Pet.ts", "controllers/PetsController.ts"],
      ∀ s ∈ segments p, NameFits s by decide +kernel) f.path hm
  have hinput : "pets.json" ≠ "" ∧ ¬ IsOption "pets.json" := isValue_iff.1 (by decide)
  have houtput : IsFileName "out" ∧ ¬ IsOption "out" ∧ NameFits "out" :=
    ⟨⟨by decide, by decide⟩, (isValue_iff.1 (by decide)).2, by decide⟩
  obtain ⟨v, g, t', hv, hg, hcode, -⟩ :=
    verdicts_agree (by decide +kernel) hinput houtput (by decide +kernel) hnames
  have hzero : v.code = 0 := by
    have h :
        ((run ["validate", "-i", "pets.json"] : StateM FileTree _).run petsTree).1.code = 0 := by
      decide +kernel
    rwa [hv] at h
  exact ⟨v, g, t', hv, hg, hzero, hcode.1 hzero⟩

end TypedClient
