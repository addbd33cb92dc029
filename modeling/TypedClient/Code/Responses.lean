import TypedClient.Api.Operation
import TypedClient.Code.Schema

set_option autoImplicit false

namespace TypedClient.Code

open Api (Response Schema)

def successCodes : List String := ["200", "default"]

def responseSchemas (responses : OrderedMap Response) : List Schema :=
  successCodes.filterMap fun code => (responses.get? code).bind Response.schema

/-- Leaves out every fragment that has the shape of an earlier one. -/
def distinctShapes : List Fragment → List Fragment
  | [] => []
  | f :: fs => f :: (distinctShapes fs).filter fun g => !f.sameShape g

def void : Fragment := .plain "void" "t.void"

def unionSeparator : Fragment := .plain " | " ", "

def responses (s : Scope) (rs : OrderedMap Response) : Fragment :=
  match distinctShapes ((responseSchemas rs).map (schema s)) with
  | [] => void
  | [f] => f.withoutReferences
  | fs =>
    let f := intercalate unionSeparator fs
    { f.withoutReferences with codec := s!"t.union([{f.codec}])" }

end TypedClient.Code
