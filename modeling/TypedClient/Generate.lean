import TypedClient.Api.Document
import TypedClient.Code.Module
import TypedClient.Text.Displayed

set_option autoImplicit false

namespace TypedClient

open Api (Schema PathItem Operation Document)

structure GeneratedFile where
  path : String
  content : String
  deriving DecidableEq, Repr

def unknownGroup : String := "Unknown"

/-- A path goes by the first tag of its first operation. -/
def groupOf (item : PathItem) : String :=
  match item.operations.head?.bind fun e => e.2.tags.head? with
  | none => unknownGroup
  | some tag =>
    let group := Text.pascalCase tag
    if group.isEmpty then unknownGroup else group

/-- Groups in the order of their first paths, the paths of each in the order of the document. -/
def groups (paths : OrderedMap PathItem) : OrderedMap (OrderedMap PathItem) :=
  paths.entries.foldl
    (fun gs (path, item) =>
      let g := groupOf item
      gs.insert g (((gs.get? g).getD .empty).insert path item))
    .empty

structure UnsafeName where
  name : String
  deriving DecidableEq, Repr

def UnsafeName.message (u : UnsafeName) : String :=
  s!"definition name {Text.display u.name} cannot be used as a file name"

def hasDots : List Char → Bool
  | '.' :: '.' :: _ => true
  | _ :: s => hasDots s
  | [] => false

/-- A name stays in its directory. -/
def isFileSafe (name : String) : Bool :=
  name != "" && !name.toList.contains '/' && !name.toList.contains '\\' && !hasDots name.toList

def clientFile : GeneratedFile := ⟨"client/client.ts", Code.clientModuleText⟩

def definitionFile (name : String) (s : Schema) : GeneratedFile :=
  ⟨s!"definitions/{name}.ts", Code.definitionModule name s⟩

def controllerFile (noDocs : Bool) (group : String) (paths : OrderedMap PathItem) :
    GeneratedFile :=
  ⟨s!"controllers/{Code.controllerName group}.ts", Code.controllerModule group paths noDocs⟩

def definitionFiles : List (String × Schema) → Except UnsafeName (List GeneratedFile)
  | [] => .ok []
  | (name, s) :: ds =>
    if isFileSafe name then do return definitionFile name s :: (← definitionFiles ds)
    else .error ⟨name⟩

def Api.Document.schemas (d : Document) : List (String × Schema) :=
  (d.definitions.getD .empty).entries

def generate (d : Document) (noDocs : Bool) : Except UnsafeName (List GeneratedFile) := do
  let definitions ← definitionFiles d.schemas
  let controllers := (groups d.paths).entries.map fun (g, paths) => controllerFile noDocs g paths
  return clientFile :: definitions ++ controllers

end TypedClient
