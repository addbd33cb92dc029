import TypedClient.Source.JsonText
import TypedClient.Source.Yaml.Document
import TypedClient.Decode.Document

set_option autoImplicit false

namespace TypedClient.Decode

open Api (Document)
open Source (Node)

inductive Format where
  | json
  | yaml
  deriving DecidableEq, Repr

inductive TextError where
  | json (problem : Problem)
  | yaml
  deriving DecidableEq, Repr

/-- A record may be written as a sequence, and values nest to a depth of 127. -/
def jsonPlace : Place := ⟨127, true⟩

def readJsonText {α : Type} (read : Place → Node → Visit α) (s : String) : Result α := do
  let (n, more) := Source.JsonText.document s
  let v ← (read jsonPlace n).run' 0
  if more then .error (.fault .malformed) else .ok v

/-- A record is a mapping, and values nest to a depth of 128. -/
def yamlPlace : Place := ⟨128, false⟩

def readYamlText? {α : Type} (read : Place → Node → Visit α) (s : String) : Option α := do
  let (n, aliases) ← Source.Yaml.document? s
  ((read yamlPlace n).run' aliases).toOption

def readText? {α : Type} (format : Format) (read : Place → Node → Visit α) (s : String) :
    Except TextError α :=
  match format with
  | .json => (readJsonText read s).mapError .json
  | .yaml =>
    match readYamlText? read s with
    | some v => .ok v
    | none => .error .yaml

inductive DocumentError where
  | text (e : TextError)
  | version (v : String)
  deriving DecidableEq, Repr

def DocumentError.versionMessage (v : String) : String := s!"unsupported Swagger version: {v}"

/-- The version is looked at last. -/
def readDocument (format : Format) (s : String) : Except DocumentError Document := do
  let d ← (readText? format document.read s).mapError .text
  if d.version = Document.supportedVersion then .ok d else .error (.version d.version)

end TypedClient.Decode
