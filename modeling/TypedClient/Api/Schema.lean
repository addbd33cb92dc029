import TypedClient.Json
import TypedClient.Text.Replace

set_option autoImplicit false

namespace TypedClient.Api

inductive Additional (α : Type) where
  | allowed (flag : Bool)
  | like (value : α)

/-- A reference to a definition, or a description of the value itself. `untyped` is an object that
shows itself only by its properties. -/
inductive Schema where
  | reference (path : String)
  | string (format : Option String) (values : Option (List Json))
  | boolean
  | integer (format : Option String)
  | number (format : Option String)
  | array (items : Schema)
  | object (properties : Option (List (String × Schema))) (required : Option (List String))
      (additional : Option (Additional Schema))
  | untyped (properties : List (String × Schema)) (required : Option (List String))

instance : Inhabited Schema := ⟨.boolean⟩

namespace Schema

def definitionsPath : String := "#/definitions/"

/-- The name that a reference gives, without the path to the definitions. -/
def definitionName (path : String) : String :=
  match Text.after definitionsPath.toList path.toList with
  | some name => String.ofList name
  | none => path

def isRequired (required : Option (List String)) (name : String) : Bool :=
  (required.getD []).contains name

end Schema

end TypedClient.Api

namespace TypedClient.Json

def texts (xs : List String) : Json := .list (xs.map .text)

def entry? {α : Type} (name : String) (write : α → Json) (v : Option α) : List (String × Json) :=
  match v with
  | some x => [(name, write x)]
  | none => []

end TypedClient.Json

namespace TypedClient.Api.Schema

mutual

def toJson : Schema → Json
  | .reference path => .record [("$ref", .text path)]
  | .string format values =>
    .record (("type", .text "string") ::
      (Json.entry? "format" .text format ++ Json.entry? "enum" .list values))
  | .boolean => .record [("type", .text "boolean")]
  | .integer format => .record (("type", .text "integer") :: Json.entry? "format" .text format)
  | .number format => .record (("type", .text "number") :: Json.entry? "format" .text format)
  | .array items => .record [("type", .text "array"), ("items", toJson items)]
  | .object properties required additional =>
    .record (("type", .text "object") ::
      (propertiesJson? properties ++ Json.entry? "required" Json.texts required ++
        additionalJson? additional))
  | .untyped properties required =>
    .record (("properties", .record (propertiesJson properties)) ::
      Json.entry? "required" Json.texts required)

def propertiesJson : List (String × Schema) → List (String × Json)
  | [] => []
  | (name, s) :: ps => (name, toJson s) :: propertiesJson ps

def propertiesJson? : Option (List (String × Schema)) → List (String × Json)
  | none => []
  | some ps => [("properties", .record (propertiesJson ps))]

def additionalJson? : Option (Additional Schema) → List (String × Json)
  | none => []
  | some (.allowed flag) => [("additionalProperties", .bool flag)]
  | some (.like s) => [("additionalProperties", toJson s)]

end

end TypedClient.Api.Schema
