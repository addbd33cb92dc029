import TypedClient.Proofs.Imports.Covers
import TypedClient.Proofs.Ordered.Gather

/-!
The lines of imports. They are what is left when every import goes to the line of its module as it
comes: no module has two lines, no line has a name twice, and nothing that was needed is missing.
-/

set_option autoImplicit false

namespace TypedClient.Code

structure ImportLine where
  path : String
  names : List String
  deriving DecidableEq

def ImportLine.text (l : ImportLine) : String :=
  "import \x7b " ++ ", ".intercalate l.names ++ s!" \x7d from '{l.path}';"

def namesAt (imports : List Import) (path : String) : List String :=
  (imports.filter fun i => i.path = path).map Import.name

def addName (names : OrderedSet String) (i : Import) : OrderedSet String :=
  names.union (.singleton i.name)

/-- The lines, filled import by import. -/
def collectLines (imports : List Import) : List ImportLine :=
  (OrderedMap.gather Import.path addName .empty imports).entries.map fun e => ⟨e.1, e.2.items⟩

theorem importedNames_eq (imports : List Import) (path : String) :
    importedNames imports path = distinct (namesAt imports path) := rfl

theorem collectLines_eq (imports : List Import) :
    collectLines imports =
      (distinct (imports.map Import.path)).map fun p => ⟨p, distinct (namesAt imports p)⟩ := by
  rw [collectLines, (gathered_gather _ _ _ imports).entries, List.map_map]
  refine List.map_congr_left fun p _ => congrArg (ImportLine.mk p) ?_
  exact congrArg OrderedSet.items (OrderedSet.foldl_singleton Import.name _)

theorem importLines_eq (imports : List Import) :
    importLines imports = (collectLines imports).map ImportLine.text := by
  rw [collectLines_eq, importLines, List.map_map]
  refine List.map_congr_left fun p _ => ?_
  rw [importLine, importedNames_eq]
  rfl

theorem collectLines_paths (imports : List Import) :
    (collectLines imports).map ImportLine.path = distinct (imports.map Import.path) := by
  rw [collectLines_eq, List.map_map]
  exact List.map_id _

theorem collectLines_names {imports : List Import} {l : ImportLine}
    (h : l ∈ collectLines imports) : l.names = distinct (namesAt imports l.path) := by
  rw [collectLines_eq] at h
  obtain ⟨p, _, rfl⟩ := List.mem_map.1 h
  rfl

theorem mem_namesAt {imports : List Import} {name path : String} :
    name ∈ namesAt imports path ↔ ⟨name, path⟩ ∈ imports := by
  rw [← mem_importedNames, importedNames_eq, mem_distinct]

theorem mem_iff_collectLines {imports : List Import} {i : Import} :
    i ∈ imports ↔ ∃ l ∈ collectLines imports, l.path = i.path ∧ i.name ∈ l.names := by
  constructor
  · intro h
    have hp : i.path ∈ (collectLines imports).map ImportLine.path := by
      rw [collectLines_paths, mem_distinct]
      exact List.mem_map_of_mem h
    obtain ⟨l, hl, hp⟩ := List.mem_map.1 hp
    refine ⟨l, hl, hp, ?_⟩
    rw [collectLines_names hl, mem_distinct, mem_namesAt, hp]
    exact h
  · rintro ⟨l, hl, hp, hn⟩
    rw [collectLines_names hl, mem_distinct, mem_namesAt, hp] at hn
    exact hn

theorem collectLines_congr {is js : List Import}
    (hp : distinct (is.map Import.path) = distinct (js.map Import.path))
    (hn : ∀ p, distinct (namesAt is p) = distinct (namesAt js p)) :
    collectLines is = collectLines js := by
  rw [collectLines_eq, collectLines_eq, hp]
  simp only [hn]

theorem collectLines_append {imports more : List Import} (h : more ⊆ imports) :
    collectLines (imports ++ more) = collectLines imports := by
  refine collectLines_congr ?_ fun p => ?_
  · rw [List.map_append]
    exact distinct_append_of_subset (List.map_subset _ h)
  · rw [namesAt, List.filter_append, List.map_append]
    refine distinct_append_of_subset (List.map_subset _ fun i hi => ?_)
    rw [List.mem_filter] at hi ⊢
    exact ⟨h hi.1, hi.2⟩

theorem collectLines_distinct (imports : List Import) :
    collectLines (distinct imports) = collectLines imports := by
  refine collectLines_congr (distinct_map_distinct _ _) fun p => ?_
  rw [namesAt, ← distinct_filter, distinct_map_distinct]
  rfl

/-- Lines of the same modules with the same names, in whatever order they stand. -/
structure Reordered (ls ms : List ImportLine) : Prop where
  paths : (ls.map ImportLine.path).Perm (ms.map ImportLine.path)
  names : ∀ l ∈ ls, ∀ m ∈ ms, l.path = m.path → l.names.Perm m.names

theorem collectLines_perm {is js : List Import} (h : is.Perm js) :
    Reordered (collectLines is) (collectLines js) := by
  constructor
  · rw [collectLines_paths, collectLines_paths]
    exact distinct_perm (h.map _)
  · intro l hl m hm hp
    rw [collectLines_names hl, collectLines_names hm, hp]
    exact distinct_perm ((h.filter _).map _)

/-- Every module has one line, in the order in which the modules first come, and every line has the
names that come with its module, in the order in which they first come with it. An import that came
before changes nothing, and other orders of the imports give other orders of the same lines. -/
theorem importLines_collected (imports : List Import) :
    importLines imports = (collectLines imports).map ImportLine.text ∧
    FirstPlaces ((collectLines imports).map ImportLine.path) (imports.map Import.path) ∧
    (∀ l ∈ collectLines imports, FirstPlaces l.names (namesAt imports l.path)) ∧
    (∀ i : Import, i ∈ imports ↔ ∃ l ∈ collectLines imports, l.path = i.path ∧ i.name ∈ l.names) ∧
    (∀ more, more ⊆ imports → importLines (imports ++ more) = importLines imports) ∧
    (∀ kept, FirstPlaces kept imports → importLines kept = importLines imports) ∧
    ∀ others, imports.Perm others → Reordered (collectLines imports) (collectLines others) := by
  refine ⟨importLines_eq imports, ?_, fun l hl => ?_, fun _ => mem_iff_collectLines,
    fun more h => ?_, fun kept h => ?_, fun _ => collectLines_perm⟩
  · rw [collectLines_paths]
    exact firstPlaces_distinct _
  · rw [collectLines_names hl]
    exact firstPlaces_distinct _
  · rw [importLines_eq, importLines_eq, collectLines_append h]
  · rw [importLines_eq, importLines_eq, firstPlaces_iff.1 h, collectLines_distinct]

def mixedImports : List Import :=
  [⟨"Option", "fp-ts/lib/Option"⟩, ⟨"createOptionFromNullable", "io-ts-types"⟩,
    ⟨"Option", "fp-ts/lib/Option"⟩, ⟨"DateFromISOString", "io-ts-types"⟩]

theorem importLines_mixed :
    (collectLines mixedImports).map ImportLine.text =
      ["import \x7b Option \x7d from 'fp-ts/lib/Option';",
        "import \x7b createOptionFromNullable, DateFromISOString \x7d from 'io-ts-types';"] ∧
    importLines (mixedImports ++ Import.option) = importLines mixedImports ∧
    importLines (distinct mixedImports) = importLines mixedImports ∧
    (collectLines mixedImports ≠ collectLines mixedImports.reverse ∧
      Reordered (collectLines mixedImports) (collectLines mixedImports.reverse)) := by
  obtain ⟨-, -, -, -, hmore, hkept, hperm⟩ := importLines_collected mixedImports
  exact ⟨by decide +kernel, hmore _ (by decide), hkept _ (firstPlaces_distinct _), by decide,
    hperm _ (List.reverse_perm _).symm⟩

end TypedClient.Code
