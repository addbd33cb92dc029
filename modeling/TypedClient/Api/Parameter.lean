import TypedClient.Api.Schema

set_option autoImplicit false

namespace TypedClient.Api

inductive Primitive where
  | string
  | boolean
  | integer
  | number
  deriving DecidableEq, Repr

def Primitive.all : List Primitive := [.string, .boolean, .integer, .number]

def Primitive.name : Primitive → String
  | .string => "string"
  | .boolean => "boolean"
  | .integer => "integer"
  | .number => "number"

inductive ParameterType where
  | primitive (type : Primitive)
  | array (items : Primitive)
  | file
  deriving DecidableEq, Repr

inductive Location where
  | path
  | query
  | header
  | formData
  deriving DecidableEq, Repr

def Location.all : List Location := [.path, .query, .header, .formData]

def Location.name : Location → String
  | .path => "path"
  | .query => "query"
  | .header => "header"
  | .formData => "formData"

structure SimpleParameter where
  name : String
  description : Option String
  required : Option Bool
  type : ParameterType
  deriving DecidableEq, Repr

structure BodyParameter where
  name : String
  description : Option String
  required : Option Bool
  schema : Schema

inductive Parameter where
  | simple (location : Location) (parameter : SimpleParameter)
  | body (parameter : BodyParameter)

def SimpleParameter.isRequired (p : SimpleParameter) : Bool := p.required.getD false

def BodyParameter.isRequired (p : BodyParameter) : Bool := p.required.getD false

def Parameter.name : Parameter → String
  | .simple _ p => p.name
  | .body p => p.name

/-- The parameter, if it is carried at the location. -/
def Parameter.at? (location : Location) : Parameter → Option SimpleParameter
  | .simple l p => if l = location then some p else none
  | .body _ => none

def Parameter.body? : Parameter → Option BodyParameter
  | .simple _ _ => none
  | .body p => some p

def ParameterType.entries : ParameterType → List (String × Json)
  | .primitive p => [("type", .text p.name)]
  | .array items => [("type", .text "array"), ("items", .record [("type", .text items.name)])]
  | .file => [("type", .text "file")]

def Parameter.toJson : Parameter → Json
  | .simple location p =>
    .record ([("in", .text location.name), ("name", .text p.name)] ++
      Json.entry? "description" .text p.description ++ Json.entry? "required" .bool p.required ++
      p.type.entries)
  | .body p =>
    .record ([("in", .text "body"), ("name", .text p.name)] ++
      Json.entry? "description" .text p.description ++ Json.entry? "required" .bool p.required ++
      [("schema", p.schema.toJson)])

end TypedClient.Api
