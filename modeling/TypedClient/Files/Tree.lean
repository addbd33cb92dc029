import TypedClient.Files.Basic
import TypedClient.OrderedMap

/-!
Trees of files and directories, and the means to work with them. A trail is the list of
the names that lead to it; the empty list is the tree itself.
-/

set_option autoImplicit false

namespace TypedClient.Files

inductive Entry where
  | directory
  | text (content : String)
  | bytes (content : List UInt8)
  deriving DecidableEq, Repr

abbrev Trail := List String

def entryAt? (es : List (Trail × Entry)) (p : Trail) : Option Entry :=
  if p = [] then some .directory else Entries.get? p es

/-- Everything stands in a directory. Paths begin at the directory `here`, unless they begin with a
slash. -/
structure FileTree where
  entries : List (Trail × Entry)
  here : Trail
  distinct : (Entries.keys entries).Nodup
  rooted : ∀ (p : Trail) (name : String),
    (entryAt? entries (p ++ [name])).isSome → entryAt? entries p = some .directory
  standing : entryAt? entries here = some .directory

namespace FileTree

theorem entryAt?_put (es : List (Trail × Entry)) (p q : Trail) (e : Entry) (hp : p ≠ []) :
    entryAt? (Entries.put p e es) q = if p = q then some e else entryAt? es q := by
  by_cases hq : q = []
  · subst hq
    simp [entryAt?, hp]
  · simp [entryAt?, hq, Entries.get?_put]

def empty : FileTree where
  entries := []
  here := []
  distinct := List.nodup_nil
  rooted := by
    intro p name h
    simp [entryAt?, Entries.get?] at h
  standing := rfl

instance : Inhabited FileTree := ⟨empty⟩

def get? (t : FileTree) (p : Trail) : Option Entry := entryAt? t.entries p

def put (t : FileTree) (dir : Trail) (name : String) (e : Entry)
    (inside : t.get? dir = some .directory) (free : t.get? (dir ++ [name]) ≠ some .directory) :
    FileTree where
  entries := Entries.put (dir ++ [name]) e t.entries
  here := t.here
  distinct := Entries.nodup_put _ _ t.distinct
  rooted := by
    intro p n h
    have hk : dir ++ [name] ≠ [] := by simp
    rw [entryAt?_put _ _ _ _ hk] at h ⊢
    have hp : entryAt? t.entries p = some .directory := by
      by_cases he : dir ++ [name] = p ++ [n]
      · obtain ⟨rfl, -⟩ := List.append_inj' he rfl
        exact inside
      · rw [if_neg he] at h
        exact t.rooted p n h
    have hne : dir ++ [name] ≠ p := fun e => free (e ▸ hp)
    rw [if_neg hne, hp]
  standing := by
    have hne : dir ++ [name] ≠ t.here := fun h => free (h ▸ t.standing)
    rw [entryAt?_put _ _ _ _ (by simp), if_neg hne, t.standing]

theorem get?_put (t : FileTree) (dir : Trail) (name : String) (e : Entry)
    (inside : t.get? dir = some .directory) (free : t.get? (dir ++ [name]) ≠ some .directory)
    (q : Trail) :
    (t.put dir name e inside free).get? q = if dir ++ [name] = q then some e else t.get? q :=
  entryAt?_put _ _ _ _ (by simp)

def isLong (name : String) : Bool := 255 < name.utf8ByteSize

def descend (t : FileTree) : Trail → List String → Except FileError Trail
  | dir, [] => .ok dir
  | dir, s :: ss =>
    if s = "." then t.descend dir ss
    else if s = ".." then t.descend dir.dropLast ss
    else if isLong s then .error .nameTooLong
    else
      match t.get? (dir ++ [s]) with
      | none => .error .notFound
      | some .directory => t.descend (dir ++ [s]) ss
      | some _ => .error .notADirectory

/-- Where a path leads: to a directory, or to a name in one that may or may not be there. -/
inductive Target where
  | directory (p : Trail)
  | name (dir : Trail) (name : String)
  deriving DecidableEq, Repr

def checkPath (path : String) : Except FileError Unit :=
  if path.toList.contains '\x00' then .error .zeroInPath
  else if 4096 ≤ path.utf8ByteSize then .error .nameTooLong
  else if path.isEmpty then .error .notFound
  else .ok ()

def target (t : FileTree) (path : String) : Except FileError Target := do
  checkPath path
  let steps := Path.segments path
  let start := if Path.isAbsolute path then [] else t.here
  match steps.getLast? with
  | none => return .directory start
  | some last =>
    let dir ← t.descend start steps.dropLast
    if last = "." then return .directory dir
    else if last = ".." then return .directory dir.dropLast
    else return .name dir last

def isThere (t : FileTree) (path : String) : Bool :=
  match t.target path with
  | .ok (.directory _) => true
  | .ok (.name dir name) => !isLong name && (t.get? (dir ++ [name])).isSome
  | .error _ => false

def read (t : FileTree) (path : String) : Except FileError String := do
  match ← t.target path with
  | .directory _ => .error .isADirectory
  | .name dir name =>
    if isLong name then .error .nameTooLong
    else
      match t.get? (dir ++ [name]) with
      | none => .error .notFound
      | some .directory => .error .isADirectory
      | some e =>
        if Path.endsInSlash path then .error .notADirectory
        else
          match e with
          | .text content => .ok content
          | _ => .error .notText

/-- Puts an entry at a name that is no directory; without the directory around it nothing changes. -/
def putFile (t : FileTree) (dir : Trail) (name : String) (e : Entry) : Except FileError FileTree :=
  if inside : t.get? dir = some .directory then
    if free : t.get? (dir ++ [name]) ≠ some .directory then .ok (t.put dir name e inside free)
    else .error .isADirectory
  else .error .notFound

def writeEntry (t : FileTree) (path : String) (e : Entry) : Except FileError FileTree := do
  match ← t.target path with
  | .directory _ => .error .isADirectory
  | .name dir name =>
    if Path.endsInSlash path then .error .isADirectory
    else if isLong name then .error .nameTooLong
    else t.putFile dir name e

def ensureDirectory (t : FileTree) (path : String) : Except FileError FileTree := do
  match ← t.target path with
  | .directory _ => .ok t
  | .name dir name =>
    if isLong name then .error .nameTooLong
    else
      match t.get? (dir ++ [name]) with
      | none => t.putFile dir name .directory
      | some .directory => .ok t
      | some _ => .error .alreadyExists

def enter (t : FileTree) (path : String) : Except FileError FileTree := do
  let dir ←
    match ← t.target path with
    | .directory p => pure p
    | .name dir name => pure (dir ++ [name])
  match h : t.get? dir with
  | none => .error .notFound
  | some .directory => .ok { t with here := dir, standing := h }
  | some _ => .error .notADirectory

/-- Changes the tree, or leaves it as it was. -/
def change (f : FileTree → Except FileError FileTree) : StateM FileTree (Except FileError Unit) :=
  fun t =>
    match f t with
    | .ok t' => (.ok (), t')
    | .error e => (.error e, t)

instance : Access (StateM FileTree) where
  isThere path := do return (← get).isThere path
  read path := do return (← get).read path
  write path content := change fun t => t.writeEntry path (.text content)
  ensureDirectory path := change fun t => t.ensureDirectory path

def pathText (p : Trail) : String := "/".intercalate p

def belowHere? (t : FileTree) (p : Trail) : Option Trail := t.here.isPrefixOf? p

def changes (before after : FileTree) : List (String × Entry) :=
  ((after.entries.filter fun e => before.get? e.1 ≠ some e.2).filterMap
    fun e => (after.belowHere? e.1).map fun p => (pathText p, e.2)).mergeSort fun a b => a.1 ≤ b.1

end FileTree

end TypedClient.Files
