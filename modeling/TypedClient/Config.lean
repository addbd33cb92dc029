import TypedClient.Decode.Text
import TypedClient.Files.Basic

set_option autoImplicit false

namespace TypedClient

open Decode (Record once skip readText readBool readYamlText?)
open Files (FileError Access)

/-- Where the description is and where the client goes, whether a note stands beside the client,
and whether methods go without comments. -/
structure Config where
  input : String
  output : String
  readme : Bool
  noDocs : Bool
  deriving DecidableEq, Repr

namespace Config

def default : Config := ⟨"swagger.yaml", "src/generated", true, false⟩

instance : Inhabited Config := ⟨default⟩

def fileName : String := ".iogen.yaml"

def defaultText : String :=
  "# iogen configuration\n" ++
  "input: swagger.yaml\n" ++
  "output: src/generated\n" ++
  "\n" ++
  "output_options:\n" ++
  "  readme: true          # write a \"do not edit\" README into the output directory\n" ++
  "\n" ++
  "client:\n" ++
  "  no_jsdoc: false       # skip doc comments on generated controller methods\n"

def outputOptions : Record (Option Bool) Bool where
  name := "OutputOptions"
  fields := [("readme", true)]
  start := none
  step _ d f x :=
    match f with
    | "readme" => once f d (readBool x)
    | _ => do
      skip x
      return d
  finish d := .ok (d.getD Config.default.readme)

def clientOptions : Record (Option Bool) Bool where
  name := "ClientConfig"
  fields := [("no_jsdoc", true)]
  start := none
  step _ d f x :=
    match f with
    | "no_jsdoc" => once f d (readBool x)
    | _ => do
      skip x
      return d
  finish d := .ok (d.getD Config.default.noDocs)

structure Draft where
  input : Option String
  output : Option String
  readme : Option Bool
  noDocs : Option Bool

def record : Record Draft Config where
  name := "IogenConfig"
  fields := [("input", true), ("output", true), ("output_options", true), ("client", true)]
  start := ⟨none, none, none, none⟩
  step p d f x :=
    match f with
    | "input" => do return { d with input := ← once f d.input (readText x) }
    | "output" => do return { d with output := ← once f d.output (readText x) }
    | "output_options" => do
      return { d with readme := ← once f d.readme (outputOptions.read p x) }
    | "client" => do return { d with noDocs := ← once f d.noDocs (clientOptions.read p x) }
    | _ => do
      skip x
      return d
  finish d := .ok {
    input := d.input.getD Config.default.input
    output := d.output.getD Config.default.output
    readme := d.readme.getD Config.default.readme
    noDocs := d.noDocs.getD Config.default.noDocs }

def ofText? (s : String) : Option Config := readYamlText? record.read s

end Config

inductive ConfigError where
  | unreadable (e : FileError)
  | malformed (text : String)
  deriving DecidableEq, Repr

def loadConfig {m : Type → Type} [Monad m] [Access m] (path : String) :
    m (Except ConfigError (Option Config)) := do
  if ← Access.isThere path then
    match ← Access.read path with
    | .error e => return .error (.unreadable e)
    | .ok s =>
      match Config.ofText? s with
      | some config => return .ok (some config)
      | none => return .error (.malformed s)
  else return .ok none

end TypedClient
