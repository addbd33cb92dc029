import TypedClient.Text.Replace

/-!
The texts of paths. A path is read as the names between its slashes; a single dot stays where it
is, a double dot goes up.
-/

set_option autoImplicit false

namespace TypedClient.Files.Path

def segments (path : String) : List String :=
  ((Text.pieces '/' path.toList).filter fun s => !s.isEmpty).map String.ofList

def isAbsolute (path : String) : Bool := path.toList.head? == some '/'

def endsInSlash (path : String) : Bool := path.toList.getLast? == some '/'

/-- The steps that a path takes. A dot counts only where the path begins. -/
def components (path : String) : List String :=
  match segments path with
  | [] => []
  | s :: ss =>
    if s = "." && isAbsolute path then ss.filter (· ≠ ".") else s :: ss.filter (· ≠ ".")

/-- Whether a path stays below the place where it begins. -/
def isInside (path : String) : Bool :=
  !isAbsolute path && (components path).all (· ≠ "..")

def join (base path : String) : String :=
  if isAbsolute path then path
  else if base.isEmpty || endsInSlash base then base ++ path else base ++ "/" ++ path

def ofComponents (absolute : Bool) (steps : List String) : String :=
  (if absolute then "/" else "") ++ "/".intercalate steps

/-- What follows the last dot of a name, unless the name begins with that dot. -/
def extensionOf (name : List Char) : Option (List Char) :=
  match name.reverse.span (· ≠ '.') with
  | (_, []) => none
  | (_, [_]) => none
  | (ext, _ :: _) => some ext.reverse

def extension? (path : String) : Option String :=
  match (components path).getLast? with
  | none => none
  | some name =>
    if name = "." || name = ".." then none else (extensionOf name.toList).map String.ofList

end TypedClient.Files.Path
