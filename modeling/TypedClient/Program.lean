import TypedClient.Command
import TypedClient.Config
import TypedClient.Generate

set_option autoImplicit false

namespace TypedClient

open Api (Document)
open Decode (Format Problem DocumentError readDocument)
open Files (FileError Access)

/-- What a command leaves behind besides files: its exit code and what it wrote to the two outputs. -/
structure Outcome where
  code : Nat
  output : String
  errors : String
  deriving DecidableEq, Repr

structure Failure where
  message : String
  cause : Option String
  deriving DecidableEq, Repr

/-- Every line of the cause is set in. -/
def Failure.report (f : Failure) : String :=
  match f.cause with
  | some cause =>
    let inset := String.ofList (Text.replaceAll ['\n'] "\n    ".toList cause.toList)
    s!"Error: {f.message}\n\nCaused by:\n    {inset}\n"
  | none => s!"Error: {f.message}\n"

def Failure.telling (message cause : String) : Failure := ⟨s!"{message}: {cause}", some cause⟩

def Outcome.failed (told : String) (f : Failure) : Outcome := ⟨1, "", told ++ f.report⟩

def Outcome.done (told : String) : Outcome := ⟨0, "", told⟩

/-- The words that the readers of texts have for a text that they refuse. -/
class Wording where
  json : String → Problem → String
  yaml : String → String
  config : String → String

/-- Plain words, where the readers' own are not at hand. -/
instance : Wording where
  json _
    | .fault .malformed => "malformed text"
    | .fault .truncated => "the text ends too early"
    | .mismatch m => m.message
  yaml _ := "no such document"
  config _ := "no such configuration"

section

variable [Wording]

def Failure.ofDocument (text : String) : DocumentError → Failure
  | .text (.json p) => .telling "failed to parse JSON" (Wording.json text p)
  | .text .yaml => .telling "failed to parse YAML" (Wording.yaml text)
  | .version v => ⟨DocumentError.versionMessage v, none⟩

def Failure.ofConfig : ConfigError → Failure
  | .unreadable e => .telling s!"failed to read config {Config.fileName}" e.message
  | .malformed text =>
    .telling s!"failed to parse config {Config.fileName}" (Wording.config text)

end

def Failure.ofFile (message : String) (e : FileError) : Failure := ⟨message, some e.message⟩

def Failure.ofName (u : UnsafeName) : Failure := ⟨u.message, none⟩

section

variable {m : Type → Type} [Monad m] [Access m] [Wording]

def formatOf (path : String) : Format :=
  if Files.Path.extension? path = some "json" then .json else .yaml

def loadDocument (path : String) : m (Except Failure Document) := do
  match ← Access.read path with
  | .error e => return .error (.ofFile s!"failed to read {path}" e)
  | .ok s => return (readDocument (formatOf path) s).mapError (.ofDocument s)

def readmeText : String :=
  "# Generated Code - Do Not Edit\n" ++
  "\n" ++
  "This directory is **auto-generated** by iogen.\n" ++
  "Any manual changes will be overwritten the next time `iogen generate` is run.\n" ++
  "\n" ++
  "To regenerate, run:\n" ++
  "```\n" ++
  "iogen generate\n" ++
  "```\n" ++
  "\n" ++
  "To customize the generated output, edit your `.iogen.yaml` configuration file.\n"

def readmeFile : GeneratedFile := ⟨"README.md", readmeText⟩

def clientFiles (d : Document) (config : Config) : Except UnsafeName (List GeneratedFile) := do
  let files ← generate d config.noDocs
  return if config.readme then files ++ [readmeFile] else files

def wroteLine (output : String) (f : GeneratedFile) : String :=
  s!"  wrote {Files.Path.join output f.path}\n"

def writeClient (input output : String) (files : List GeneratedFile) : m Outcome := do
  let told := s!"Generating {input} → {output}\n"
  match ← Files.ensureDirectories output with
  | .error e =>
    return .failed told (.ofFile s!"failed to create output directory {output}" e)
  | .ok () =>
    match ← Files.writeFiles output (files.map fun f => (f.path, f.content)) with
    | .error e => return .failed told (.ofFile s!"failed to write files under {output}" e)
    | .ok () =>
      return .done (told ++ String.join (files.map (wroteLine output)) ++
        s!"Generated {files.length} files in {output}\n")

def runGenerate (input output : Option String) : m Outcome := do
  match ← loadConfig Config.fileName with
  | .error e => return .failed "" (.ofConfig e)
  | .ok config? =>
    let config := config?.getD .default
    let input := input.getD config.input
    let output := output.getD config.output
    match ← loadDocument input with
    | .error f => return .failed "" f
    | .ok d =>
      match clientFiles d config with
      | .error u => return .failed s!"Generating {input} → {output}\n" (.ofName u)
      | .ok files => writeClient input output files

def summary (d : Document) : String :=
  s!"Valid Swagger {d.version} document: {d.info.title}\n" ++
    s!"  Version: {d.info.version}\n" ++
    s!"  Paths: {d.paths.size}\n" ++
    s!"  Definitions: {d.schemas.length}\n" ++
    s!"  Controllers: {(groups d.paths).size}\n"

def runValidate (input : String) : m Outcome := do
  match ← loadDocument input with
  | .error f => return .failed "" f
  | .ok d =>
    match generate d Config.default.noDocs with
    | .error u => return .failed (summary d) (.ofName u)
    | .ok files =>
      return .done (summary d ++ s!"  Files: {files.length}\nValidation successful.\n")

def runInit (force : Bool) : m Outcome := do
  if (← Access.isThere Config.fileName) && !force then
    return .failed "" ⟨s!"{Config.fileName} already exists. Use --force to overwrite.", none⟩
  else
    match ← Access.write Config.fileName Config.defaultText with
    | .error e => return .failed "" ⟨e.message, none⟩
    | .ok () => return .done s!"Created {Config.fileName}\n"

def Command.run : Command → m Outcome
  | .generate input output => runGenerate input output
  | .validate input => runValidate input
  | .init force => runInit force
  | .version => return ⟨0, "iogen 0.1.0\n", ""⟩
  | .help => return ⟨0, Command.usage, ""⟩

def run (arguments : List String) : m Outcome :=
  match Command.ofArguments? arguments with
  | some command => command.run
  | none => return ⟨2, "", Command.usage⟩

end

end TypedClient
