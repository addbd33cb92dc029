import TypedClient.Api.Parameter
import TypedClient.Decode.Schema

/-!
Reading parameters. The member `in` says where a parameter is carried and so what else it holds; a
simple parameter finds its type among the members that are left when its own are taken.
-/

set_option autoImplicit false

namespace TypedClient.Decode

open Api (Location Primitive ParameterType SimpleParameter BodyParameter Parameter)
open Source (Content Node)

namespace Resolved

def primitives : List (String × Primitive) := Primitive.all.map fun p => (p.name, p)

def primitive : Content → Result Primitive
  | .mapping ms => do
    let (p, rest) ← tagged id "type" primitives ms
    let _ ← known [] rest
    return p
  | .sequence [] => fail (.missingField "type")
  | .sequence (x :: xs) => do
    let p ← variant primitives x
    let _ ← positional [] xs
    return p
  | c => wrongType (.ofContent c) "internally tagged enum NonArrayItems"

inductive TypeName where
  | primitive (p : Primitive)
  | array
  | file
  deriving DecidableEq, Repr

def typeNames : List (String × TypeName) :=
  Primitive.all.map (fun p => (p.name, .primitive p)) ++ [("array", .array), ("file", .file)]

def arrayItems : Option Primitive → List (Content × Content) → Result Primitive
  | found, [] => need "items" found
  | found, (k, x) :: ms => do
    match ← fieldName ["items"] k with
    | some f => arrayItems (← once f found (primitive x)) ms
    | none => arrayItems found ms

def parameterType (ms : List (Content × Content)) : Result ParameterType := do
  match ← tagged id "type" typeNames ms with
  | (.primitive p, _) => return .primitive p
  | (.array, rest) => return .array (← arrayItems none rest)
  | (.file, _) => return .file

structure ParameterDraft where
  name : Option String
  description : Option (Option String)
  required : Option (Option Bool)
  schema : Option Api.Schema

def ParameterDraft.start : ParameterDraft := ⟨none, none, none, none⟩

def ParameterDraft.step (d : ParameterDraft) (field : String) (x : Content) :
    Result ParameterDraft :=
  match field with
  | "name" => do return { d with name := ← once field d.name (text x) }
  | "description" => do
    return { d with description := ← once field d.description (option text x) }
  | "required" => do return { d with required := ← once field d.required (option bool x) }
  | "schema" => do return { d with schema := ← once field d.schema (Resolved.schema x) }
  | _ => .ok d

def simpleFields : List String := ["name", "description", "required"]

/-- Takes the fields of a simple parameter and leaves the other members. -/
def simpleMembers : ParameterDraft → List (Content × Content) →
    Result (ParameterDraft × List (Content × Content))
  | d, [] => .ok (d, [])
  | d, (.text k, x) :: ms =>
    if simpleFields.contains k then do simpleMembers (← d.step k x) ms
    else do
      let (d, rest) ← simpleMembers d ms
      return (d, (.text k, x) :: rest)
  | d, (k, x) :: ms =>
    if (index? k).isSome then do
      let (d, rest) ← simpleMembers d ms
      return (d, (k, x) :: rest)
    else wrongType (.ofContent k) "field identifier"

def simpleParameter : Content → Result SimpleParameter
  | .mapping ms => do
    let (d, rest) ← simpleMembers .start ms
    let name ← need "name" d.name
    let type ← parameterType rest
    return ⟨name, d.description.getD none, d.required.getD none, type⟩
  | c => wrongType (.ofContent c) "struct NonBodyParameter"

def bodyFields : List String := ["name", "description", "required", "schema"]

def bodyMembers : ParameterDraft → List (Content × Content) → Result ParameterDraft
  | d, [] => .ok d
  | d, (k, x) :: ms => do
    match ← fieldName bodyFields k with
    | some f => bodyMembers (← d.step f x) ms
    | none => bodyMembers d ms

def bodyItems : List String → Nat → ParameterDraft → List Content → Result ParameterDraft
  | [], _, d, [] => .ok d
  | [], i, _, x :: xs =>
    fail (.wrongLength (i + (x :: xs).length) s!"{elements bodyFields.length} in sequence")
  | _ :: _, i, _, [] =>
    fail (.wrongLength i s!"struct BodyParameter with {elements bodyFields.length}")
  | f :: fs, i, d, x :: xs => do bodyItems fs (i + 1) (← d.step f x) xs

def ParameterDraft.body (d : ParameterDraft) : Result BodyParameter := do
  let name ← need "name" d.name
  let schema ← need "schema" d.schema
  return ⟨name, d.description.getD none, d.required.getD none, schema⟩

def bodyParameter : Content → Result BodyParameter
  | .mapping ms => do (← bodyMembers .start ms).body
  | .sequence xs => do (← bodyItems bodyFields 0 .start xs).body
  | c => wrongType (.ofContent c) "struct BodyParameter"

def carriers : List (String × Option Location) :=
  Location.all.map (fun l => (l.name, some l)) ++ [("body", none)]

def parameter (carrier : Option Location) (c : Content) : Result Parameter :=
  match carrier with
  | some l => (simpleParameter c).map (.simple l)
  | none => (bodyParameter c).map .body

end Resolved

/-- Reads the tag where it stands and resolves all other members. -/
def carrierMembers (p : Place) : Option (Option Location) → List (Node × Node) →
    Visit (Option (Option Location) × List (Content × Content))
  | found, [] => return (found, [])
  | found, (k, x) :: ms => do
    let k ← content p k
    if Resolved.isText "in" k then
      let found ← once "in" found (readVariant Resolved.carriers x)
      carrierMembers p found ms
    else
      let x ← content p x
      let (found, rest) ← carrierMembers p found ms
      return (found, (k, x) :: rest)

def readParameter (p : Place) : Node → Visit Parameter
  | .alias target => do
    follow
    readParameter p target
  | .mapping labelled ms e => do
    if labelled then fail .unresolved
    let (carrier, rest) ← carrierMembers (← p.enter) none ms
    Ending.check e
    Resolved.parameter (← need "in" carrier) (.mapping rest)
  | .sequence labelled xs e => do
    if labelled then fail .unresolved
    let p ← p.enter
    match xs with
    | [] => do
      Ending.check e
      fail (.missingField "in")
    | x :: xs => do
      let carrier ← readVariant Resolved.carriers x
      let rest ← contents p xs
      Ending.check e
      Resolved.parameter carrier (.sequence rest)
  | n => do
    let c ← content p n
    wrongType (.ofContent c) "internally tagged enum Parameter"

end TypedClient.Decode
