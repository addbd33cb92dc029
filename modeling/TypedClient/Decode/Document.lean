import TypedClient.Api.Document
import TypedClient.Decode.Parameter

set_option autoImplicit false

namespace TypedClient.Decode

open Api (Schema Verb Response Operation PathItem Info Tag Document Parameter)
open Source (Node)

mutual

def readJson (p : Place) : Node → Visit Json
  | .sequence labelled xs e => do
    if labelled then fail .unresolved
    let vs ← readJsonItems (← p.enter) xs
    Ending.check e
    return .list vs
  | .mapping labelled ms e => do
    if labelled then fail .unresolved
    let es ← readJsonMembers (← p.enter) ms
    Ending.check e
    return .sorted es
  | .scalar s => do Resolved.json (← content p (.scalar s))
  | .alias target => do
    follow
    readJson p target
  | .refused f => throw (.fault f)
  | .broken read _ => throw (.fault read)

def readJsonItems (p : Place) : List Node → Visit (List Json)
  | [] => return []
  | x :: xs => do
    let v ← readJson p x
    let vs ← readJsonItems p xs
    return v :: vs

def readJsonMembers (p : Place) : List (Node × Node) → Visit (List (String × Json))
  | [] => return []
  | (k, x) :: ms => do
    let k ← readText k
    let v ← readJson p x
    let es ← readJsonMembers p ms
    return (k, v) :: es

end

structure ResponseDraft where
  description : Option String
  schema : Option (Option Schema)

def response : Record ResponseDraft Response where
  name := "Response"
  fields := [("description", true), ("schema", false)]
  start := ⟨none, none⟩
  step p d f x :=
    match f with
    | "description" => do return { d with description := ← once f d.description (readText x) }
    | "schema" => do
      return { d with schema := ← once f d.schema (readOption (readSchema p) x) }
    | _ => do
      skip x
      return d
  finish d := .ok ⟨d.description.getD "", d.schema.getD none⟩

structure OperationDraft where
  id : Option (Option String)
  summary : Option (Option String)
  description : Option (Option String)
  tags : Option (List String)
  parameters : Option (List Parameter)
  responses : Option (OrderedMap Response)
  deprecated : Option (Option Bool)

def operation : Record OperationDraft Operation where
  name := "Operation"
  fields := [("operationId", false), ("summary", false), ("description", false), ("tags", true),
    ("parameters", true), ("responses", true), ("deprecated", false)]
  start := ⟨none, none, none, none, none, none, none⟩
  step p d f x :=
    match f with
    | "operationId" => do return { d with id := ← once f d.id (readOption readText x) }
    | "summary" => do return { d with summary := ← once f d.summary (readOption readText x) }
    | "description" => do
      return { d with description := ← once f d.description (readOption readText x) }
    | "tags" => do return { d with tags := ← once f d.tags (readList (fun _ => readText) p x) }
    | "parameters" => do
      return { d with parameters := ← once f d.parameters (readList readParameter p x) }
    | "responses" => do
      return { d with responses := ← once f d.responses (readMap response.read p x) }
    | "deprecated" => do
      return { d with deprecated := ← once f d.deprecated (readOption readBool x) }
    | _ => do
      skip x
      return d
  finish d := .ok {
    id := d.id.getD none
    summary := d.summary.getD none
    description := d.description.getD none
    tags := d.tags.getD []
    parameters := d.parameters.getD []
    responses := d.responses.getD .empty
    deprecated := d.deprecated.getD none }

abbrev PathItemDraft := List (Verb × Option Operation)

def pathItem : Record PathItemDraft PathItem where
  name := "PathItem"
  fields := Verb.all.map fun v => (v.key, false)
  start := []
  step p d f x :=
    match Verb.ofKey? f with
    | some v =>
      if (d.lookup v).isSome then fail (.duplicateField f)
      else do return (v, ← readOption (operation.read p) x) :: d
    | none => do
      skip x
      return d
  finish d := .ok (.ofVerbs fun v => (d.lookup v).getD none)

structure InfoDraft where
  title : Option String
  description : Option (Option String)
  version : Option String

def info : Record InfoDraft Info where
  name := "Info"
  fields := [("title", false), ("description", false), ("version", false)]
  start := ⟨none, none, none⟩
  step _ d f x :=
    match f with
    | "title" => do return { d with title := ← once f d.title (readText x) }
    | "description" => do
      return { d with description := ← once f d.description (readOption readText x) }
    | "version" => do return { d with version := ← once f d.version (readText x) }
    | _ => do
      skip x
      return d
  finish d := do
    let title ← need "title" d.title
    let version ← need "version" d.version
    return ⟨title, d.description.getD none, version⟩

structure TagDraft where
  name : Option String
  description : Option (Option String)

def tag : Record TagDraft Tag where
  name := "Tag"
  fields := [("name", false), ("description", false)]
  start := ⟨none, none⟩
  step _ d f x :=
    match f with
    | "name" => do return { d with name := ← once f d.name (readText x) }
    | "description" => do
      return { d with description := ← once f d.description (readOption readText x) }
    | _ => do
      skip x
      return d
  finish d := do return ⟨← need "name" d.name, d.description.getD none⟩

structure DocumentDraft where
  version : Option String
  info : Option Info
  host : Option (Option String)
  basePath : Option (Option String)
  definitions : Option (Option (OrderedMap Schema))
  paths : Option (OrderedMap PathItem)
  tags : Option (List Tag)

def document : Record DocumentDraft Document where
  name := "SwaggerSpec"
  fields := [("swagger", false), ("info", false), ("host", false), ("basePath", false),
    ("definitions", false), ("paths", true), ("tags", true)]
  start := ⟨none, none, none, none, none, none, none⟩
  step p d f x :=
    match f with
    | "swagger" => do return { d with version := ← once f d.version (readText x) }
    | "info" => do return { d with info := ← once f d.info (info.read p x) }
    | "host" => do return { d with host := ← once f d.host (readOption readText x) }
    | "basePath" => do
      return { d with basePath := ← once f d.basePath (readOption readText x) }
    | "definitions" => do
      return { d with definitions := ← once f d.definitions (readOption (readMap readSchema p) x) }
    | "paths" => do return { d with paths := ← once f d.paths (readMap pathItem.read p x) }
    | "tags" => do return { d with tags := ← once f d.tags (readList tag.read p x) }
    | _ => do
      skip x
      return d
  finish d := do
    let version ← need "swagger" d.version
    let info ← need "info" d.info
    return {
      version := version
      info := info
      host := d.host.getD none
      basePath := d.basePath.getD none
      definitions := d.definitions.getD none
      paths := d.paths.getD .empty
      tags := d.tags.getD [] }

end TypedClient.Decode
