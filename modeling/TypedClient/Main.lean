import TypedClient.Program

set_option autoImplicit false

namespace TypedClient.Files

def FileError.ofIO : IO.Error → FileError
  | .noFileOrDirectory .. => .notFound
  | .alreadyExists .. => .alreadyExists
  | .inappropriateType _ code _ => if code = 21 then .isADirectory else .notADirectory
  | .invalidArgument _ code _ => if code = 36 then .nameTooLong else .zeroInPath
  | .resourceExhausted .. => .nameTooLong
  | _ => .notText

def attempt {α : Type} (act : IO α) : IO (Except FileError α) := do
  try
    return .ok (← act)
  catch e => return .error (.ofIO e)

/-- Whether a path can be opened at all. -/
def canOpen (path : String) : IO Bool := do
  match ← attempt (IO.FS.Handle.mk path .read) with
  | .ok _ => return true
  | .error _ => return false

/-- Whether a directory stands at the path: what is in it can be looked up. -/
def isDirectory (path : String) : IO Bool := canOpen (Path.join path ".")

def readText (path : String) : IO (Except FileError String) := do
  match ← attempt (IO.FS.readBinFile path) with
  | .error e => return .error (if ← isDirectory path then .isADirectory else e)
  | .ok bytes =>
    match String.fromUTF8? bytes with
    | some s => return .ok s
    | none => return .error .notText

instance : Access IO where
  isThere := canOpen
  read := readText
  write path content := attempt (IO.FS.writeFile path content)
  ensureDirectory path := do
    match ← attempt (IO.FS.createDir path) with
    | .error .alreadyExists =>
      if ← isDirectory path then return .ok () else return .error .alreadyExists
    | r => return r

end TypedClient.Files

def main (arguments : List String) : IO UInt32 := do
  let outcome ← TypedClient.run arguments
  IO.print outcome.output
  IO.eprint outcome.errors
  return outcome.code.toUInt32
