import TypedClient.Api.Parameter
import TypedClient.OrderedMap

set_option autoImplicit false

namespace TypedClient

def OrderedMap.toJson {α : Type} (write : α → Json) (m : OrderedMap α) : Json :=
  .record (m.entries.map fun e => (e.1, write e.2))

namespace Json

def items? {α : Type} (name : String) (write : α → Json) (xs : List α) : List (String × Json) :=
  if xs.isEmpty then [] else [(name, .list (xs.map write))]

def map? {α : Type} (name : String) (write : α → Json) (m : OrderedMap α) : List (String × Json) :=
  if m.isEmpty then [] else [(name, m.toJson write)]

end Json

namespace Api

inductive Verb where
  | get
  | put
  | post
  | delete
  | options
  | head
  | patch
  deriving DecidableEq, Repr

def Verb.all : List Verb := [.get, .put, .post, .delete, .options, .head, .patch]

def Verb.name : Verb → String
  | .get => "GET"
  | .put => "PUT"
  | .post => "POST"
  | .delete => "DELETE"
  | .options => "OPTIONS"
  | .head => "HEAD"
  | .patch => "PATCH"

def Verb.key : Verb → String
  | .get => "get"
  | .put => "put"
  | .post => "post"
  | .delete => "delete"
  | .options => "options"
  | .head => "head"
  | .patch => "patch"

def Verb.ofKey? (key : String) : Option Verb := Verb.all.find? fun v => v.key == key

theorem Verb.ofKey?_key (v : Verb) : Verb.ofKey? v.key = some v := by
  cases v <;> decide

structure Response where
  description : String
  schema : Option Schema

structure Operation where
  id : Option String
  summary : Option String
  description : Option String
  tags : List String
  parameters : List Parameter
  responses : OrderedMap Response
  deprecated : Option Bool

namespace Operation

def isDeprecated (o : Operation) : Bool := o.deprecated.getD false

def parametersAt (o : Operation) (location : Location) : List SimpleParameter :=
  o.parameters.filterMap (Parameter.at? location)

def bodyParameters (o : Operation) : List BodyParameter := o.parameters.filterMap Parameter.body?

/-- An operation without an id goes by its verb. -/
def name (o : Operation) (verb : Verb) : String := o.id.getD verb.name

end Operation

structure PathItem where
  get : Option Operation
  put : Option Operation
  post : Option Operation
  delete : Option Operation
  options : Option Operation
  head : Option Operation
  patch : Option Operation

namespace PathItem

def ofVerbs (f : Verb → Option Operation) : PathItem :=
  ⟨f .get, f .put, f .post, f .delete, f .options, f .head, f .patch⟩

def operation? (p : PathItem) : Verb → Option Operation
  | .get => p.get
  | .put => p.put
  | .post => p.post
  | .delete => p.delete
  | .options => p.options
  | .head => p.head
  | .patch => p.patch

theorem operation?_ofVerbs (f : Verb → Option Operation) (v : Verb) :
    (ofVerbs f).operation? v = f v := by
  cases v <;> rfl

/-- The operations that are there, in the order of the verbs. -/
def operations (p : PathItem) : List (Verb × Operation) :=
  Verb.all.filterMap fun v => (p.operation? v).map fun o => (v, o)

end PathItem

def Response.toJson (r : Response) : Json :=
  .record (("description", .text r.description) :: Json.entry? "schema" Schema.toJson r.schema)

def Operation.toJson (o : Operation) : Json :=
  .record (Json.entry? "operationId" .text o.id ++ Json.entry? "summary" .text o.summary ++
    Json.entry? "description" .text o.description ++ Json.items? "tags" .text o.tags ++
    Json.items? "parameters" Parameter.toJson o.parameters ++
    Json.map? "responses" Response.toJson o.responses ++
    Json.entry? "deprecated" .bool o.deprecated)

def PathItem.toJson (p : PathItem) : Json :=
  .record (p.operations.map fun (v, o) => (v.key, o.toJson))

end Api

end TypedClient
