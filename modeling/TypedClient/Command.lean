set_option autoImplicit false

namespace TypedClient

inductive Command where
  | generate (input output : Option String)
  | validate (input : String)
  | init (force : Bool)
  | version
  | help
  deriving DecidableEq, Repr

namespace Command

def usage : String :=
  "Usage: iogen <COMMAND>\n\n" ++
  "Commands:\n" ++
  "  generate [-i <INPUT>] [-o <OUTPUT>]\n" ++
  "  validate -i <INPUT>\n" ++
  "  init [--force]\n"

structure OptionName where
  letter : Option Char
  word : String
  takesValue : Bool
  deriving DecidableEq, Repr

def inputOption : OptionName := ⟨some 'i', "input", true⟩

def outputOption : OptionName := ⟨some 'o', "output", true⟩

def forceOption : OptionName := ⟨none, "force", false⟩

/-- An argument: an option by its word or by a letter, with what is attached to it; the mark after
which there are no options; or anything else. -/
inductive Argument where
  | word (name : String) (value : Option String)
  | letter (name : Char) (attached : String)
  | endOfOptions
  | other
  deriving DecidableEq, Repr

def Argument.ofText (s : String) : Argument :=
  match s.toList with
  | ['-', '-'] => .endOfOptions
  | '-' :: '-' :: cs =>
    match cs.span (· ≠ '=') with
    | (name, []) => .word (String.ofList name) none
    | (name, _ :: value) => .word (String.ofList name) (some (String.ofList value))
  | '-' :: c :: cs => .letter c (String.ofList cs)
  | _ => .other

def isValue (s : String) : Bool := Argument.ofText s = .other && s != ""

/-- Options and their values; an option that takes none has the empty value. -/
abbrev Given := List (OptionName × String)

inductive Parsed where
  | given (g : Given)
  | help
  | wrong
  deriving DecidableEq, Repr

def Parsed.add (o : OptionName) (value : String) : Parsed → Parsed
  | .given g => .given ((o, value) :: g)
  | p => p

/-- Reads the options of a command, `seen` having been given before; each is given at most once, and
no value is empty. -/
def parse (options : List OptionName) : List OptionName → List String → Parsed
  | _, [] => .given []
  | seen, s :: rest =>
    let found (o : OptionName) (value : String) (rest : Parsed) : Parsed :=
      if seen.contains o then .wrong else rest.add o value
    match Argument.ofText s with
    | .endOfOptions => if rest.isEmpty then .given [] else .wrong
    | .other => .wrong
    | .word name value =>
      if name = "help" && value.isNone then .help
      else
        match options.find? fun o => o.word == name with
        | none => .wrong
        | some o =>
          match o.takesValue, value, rest with
          | false, none, rest => found o "" (parse options (o :: seen) rest)
          | false, some _, _ => .wrong
          | true, some "", _ => .wrong
          | true, some v, rest => found o v (parse options (o :: seen) rest)
          | true, none, v :: rest =>
            if isValue v then found o v (parse options (o :: seen) rest) else .wrong
          | true, none, [] => .wrong
    | .letter c attached =>
      if c = 'h' then .help
      else
        match options.find? fun o => o.letter == some c with
        | none => .wrong
        | some o =>
          match attached.toList, rest with
          | [], v :: rest =>
            if isValue v then found o v (parse options (o :: seen) rest) else .wrong
          | [], [] => .wrong
          | ['='], _ => .wrong
          | '=' :: v, rest => found o (String.ofList v) (parse options (o :: seen) rest)
          | v, rest => found o (String.ofList v) (parse options (o :: seen) rest)

def Parsed.command? (p : Parsed) (make : Given → Option Command) : Option Command :=
  match p with
  | .given g => make g
  | .help => some .help
  | .wrong => none

def names : List String := ["generate", "validate", "init", "completions", "help"]

def ofArguments? : List String → Option Command
  | [] => none
  | s :: rest =>
    match Argument.ofText s with
    | .word "version" none => some .version
    | .word "help" none => some .help
    | .letter 'V' _ => some .version
    | .letter 'h' _ => some .help
    | .other =>
      match s with
      | "generate" =>
        (parse [inputOption, outputOption] [] rest).command? fun g =>
          some (.generate (g.lookup inputOption) (g.lookup outputOption))
      | "validate" =>
        (parse [inputOption] [] rest).command? fun g => (g.lookup inputOption).map .validate
      | "init" =>
        (parse [forceOption] [] rest).command? fun g =>
          some (.init (g.lookup forceOption).isSome)
      | "help" =>
        match rest with
        | [] => some .help
        | [name] => if names.contains name then some .help else none
        | _ => none
      | _ => none
    | _ => none

end Command

end TypedClient
