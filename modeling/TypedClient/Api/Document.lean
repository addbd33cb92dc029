import TypedClient.Api.Operation

set_option autoImplicit false

namespace TypedClient.Api

structure Info where
  title : String
  description : Option String
  version : String
  deriving DecidableEq, Repr

structure Tag where
  name : String
  description : Option String
  deriving DecidableEq, Repr

structure Document where
  version : String
  info : Info
  host : Option String
  basePath : Option String
  definitions : Option (OrderedMap Schema)
  paths : OrderedMap PathItem
  tags : List Tag

def Document.supportedVersion : String := "2.0"

def Info.toJson (i : Info) : Json :=
  .record ([("title", .text i.title)] ++ Json.entry? "description" .text i.description ++
    [("version", .text i.version)])

def Tag.toJson (t : Tag) : Json :=
  .record (("name", .text t.name) :: Json.entry? "description" .text t.description)

def Document.toJson (d : Document) : Json :=
  .record ([("swagger", .text d.version), ("info", d.info.toJson)] ++
    Json.entry? "host" .text d.host ++ Json.entry? "basePath" .text d.basePath ++
    Json.entry? "definitions" (OrderedMap.toJson Schema.toJson) d.definitions ++
    Json.map? "paths" PathItem.toJson d.paths ++ Json.items? "tags" Tag.toJson d.tags)

end TypedClient.Api
