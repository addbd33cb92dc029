import TypedClient.Api.Parameter
import TypedClient.Code.Schema

set_option autoImplicit false

namespace TypedClient.Code

open Api (Primitive ParameterType SimpleParameter BodyParameter)

def primitive : Primitive → Fragment
  | .string => string
  | .boolean => boolean
  | .integer => number
  | .number => number

def parameterType : ParameterType → Fragment
  | .primitive p => primitive p
  | .array items => (primitive items).array
  | .file => unknown

/-- An argument: how it is declared and how its value is encoded. -/
structure Argument where
  name : String
  fragment : Fragment
  deriving DecidableEq

def argument (p : SimpleParameter) : Argument :=
  let f := parameterType p.type
  ⟨p.name, { f with type := s!"{p.name}: {f.type}", codec := s!"{f.codec}.encode({p.name})" }⟩

def Argument.bag (a : Argument) : Bag := ⟨a.fragment, true⟩

def argumentDoc (p : SimpleParameter) : String :=
  let line := "@param \x7b " ++ (parameterType p.type).type ++ " \x7d " ++ p.name
  match p.description with
  | some description => s!"{line} - {description}"
  | none => line

def bagSeparator : Bag := ⟨.fieldSeparator, false⟩

/-- No parameter refers back to the object it is part of. -/
def bag (fields : List Bag) : Bag :=
  let b := intercalate bagSeparator fields
  { b with fragment := b.fragment.object none }

def queryField (p : SimpleParameter) : Bag :=
  ⟨(parameterType p.type).field p.name p.isRequired, p.isRequired⟩

def queryBag (ps : List SimpleParameter) : Bag := bag (ps.map queryField)

def bodyField (s : Scope) (p : BodyParameter) : Bag :=
  ⟨(schema s p.schema).field p.name p.isRequired, p.isRequired⟩

def bodyBag (s : Scope) (ps : List BodyParameter) : Bag := bag (ps.map (bodyField s))

def anyRequired (query : List SimpleParameter) (body : List BodyParameter) : Bool :=
  query.any SimpleParameter.isRequired || body.any BodyParameter.isRequired

def parametersDoc? (query : List SimpleParameter) (body : List BodyParameter) : Option String :=
  if query.isEmpty && body.isEmpty then none
  else
    let name := if anyRequired query body then "parameters" else "[parameters]"
    some ("@param \x7b object \x7d " ++ name)

end TypedClient.Code
