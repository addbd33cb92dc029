import TypedClient.Files.Path

set_option autoImplicit false

namespace TypedClient.Files

inductive FileError where
  | notFound
  | alreadyExists
  | notADirectory
  | isADirectory
  | nameTooLong
  | zeroInPath
  | notText
  | outside (path : String)
  deriving DecidableEq, Repr

def FileError.message : FileError → String
  | .notFound => "No such file or directory (os error 2)"
  | .alreadyExists => "File exists (os error 17)"
  | .notADirectory => "Not a directory (os error 20)"
  | .isADirectory => "Is a directory (os error 21)"
  | .nameTooLong => "File name too long (os error 36)"
  | .zeroInPath => "file name contained an unexpected NUL byte"
  | .notText => "stream did not contain valid UTF-8"
  | .outside path => s!"refusing to write {path} outside the output directory"

class Access (m : Type → Type) where
  isThere : String → m Bool
  read : String → m (Except FileError String)
  write : String → String → m (Except FileError Unit)
  /-- Makes a directory inside one that is there, unless it is there already. -/
  ensureDirectory : String → m (Except FileError Unit)

section

variable {m : Type → Type} [Monad m] [Access m]

/-- Makes a directory and those on the way to it; the innermost step comes first. A step is written
without the spare slashes and dots of the path that was given, which only the limit on the length of
a path could tell apart. -/
def ensureSteps (absolute : Bool) : List String → m (Except FileError Unit)
  | [] => return .ok ()
  | step :: outer => do
    let path := Path.ofComponents absolute (step :: outer).reverse
    match ← Access.ensureDirectory path with
    | .error .notFound =>
      match ← ensureSteps absolute outer with
      | .ok () => Access.ensureDirectory path
      | .error e => return .error e
    | r => return r

def ensureParent (path : String) : m (Except FileError Unit) :=
  ensureSteps (Path.isAbsolute path) (Path.components path).dropLast.reverse

def ensureDirectories (path : String) : m (Except FileError Unit) := do
  if path.isEmpty then return .ok ()
  match ← Access.ensureDirectory path with
  | .error .notFound =>
    match ← ensureParent path with
    | .ok () => Access.ensureDirectory path
    | .error e => return .error e
  | r => return r

def writeInto (path content : String) : m (Except FileError Unit) := do
  match ← ensureParent path with
  | .ok () => Access.write path content
  | .error e => return .error e

/-- Writes one file after the other below the base, up to the first that fails. -/
def writeEach (base : String) : List (String × String) → m (Except FileError Unit)
  | [] => return .ok ()
  | (path, content) :: files => do
    match ← writeInto (Path.join base path) content with
    | .ok () => writeEach base files
    | .error e => return .error e

/-- Writes files below the base; nothing is written when a path leads out of it. -/
def writeFiles (base : String) (files : List (String × String)) : m (Except FileError Unit) :=
  match files.find? fun f => !Path.isInside f.1 with
  | some f => return .error (.outside f.1)
  | none => writeEach base files

end

end TypedClient.Files
