import TypedClient.Api.Schema
import TypedClient.OrderedMap
import TypedClient.Decode.Resolved
import TypedClient.Decode.Reader

/-!
Reading schemas. A value is read as a reference, else by its `type`, else as an object that shows
itself by its properties.
-/

set_option autoImplicit false

namespace TypedClient.Decode

open Api (Schema Additional)
open Source (Content Node)

/-- A value with the schema that it stands for and with the schemas of its members. -/
structure Reading where
  value : Content
  schema : Result Schema
  table : Result (List (String × Schema))

namespace Reading

abbrev Fields := List (String × Reading)

def field {α : Type} (fs : Fields) (name : String) (read : Reading → Result α) : Result α :=
  match fs.lookup name with
  | some r => read r
  | none => fail (.missingField name)

def optional {α : Type} (fs : Fields) (name : String) (read : Reading → Result α) :
    Result (Option α) :=
  match fs.lookup name with
  | some r => Resolved.option (fun _ => read r) r.value
  | none => .ok none

def text (r : Reading) : Result String := Resolved.text r.value

def texts (r : Reading) : Result (List String) := Resolved.list Resolved.text r.value

def values (r : Reading) : Result (List Json) := Resolved.list Resolved.json r.value

def additional (r : Reading) : Result (Additional Schema) :=
  match r.value with
  | .bool b => .ok (.allowed b)
  | _ => r.schema.map .like

inductive SchemaType where
  | string
  | boolean
  | integer
  | number
  | array
  | object
  deriving DecidableEq, Repr

def schemaTypes : List (String × SchemaType) :=
  [("string", .string), ("boolean", .boolean), ("integer", .integer), ("number", .number),
    ("array", .array), ("object", .object)]

def SchemaType.fields : SchemaType → List String
  | .string => ["format", "enum"]
  | .boolean => []
  | .integer => ["format"]
  | .number => ["format"]
  | .array => ["items"]
  | .object => ["properties", "required", "additionalProperties"]

def ofType (fs : Fields) : SchemaType → Result Schema
  | .string => do return .string (← optional fs "format" text) (← optional fs "enum" values)
  | .boolean => .ok .boolean
  | .integer => do return .integer (← optional fs "format" text)
  | .number => do return .number (← optional fs "format" text)
  | .array => do return .array (← field fs "items" schema)
  | .object => do
    return .object (← optional fs "properties" table) (← optional fs "required" texts)
      (← optional fs "additionalProperties" additional)

def untypedFields : List String := ["properties", "required"]

def ofProperties (fs : Fields) : Result Schema := do
  return .untyped (← field fs "properties" table) (← optional fs "required" texts)

def firstOf (rs : List (Result Schema)) : Result Schema :=
  match rs.findSome? fun r => r.toOption with
  | some s => .ok s
  | none => fail (.noVariant "SchemaObject")

abbrev Members := List (Content × Reading)

def asReference (ms : Members) : Result Schema := do
  let fs ← Resolved.known ["$ref"] ms
  return .reference (← field fs "$ref" text)

def asTyped (ms : Members) : Result Schema := do
  let (t, rest) ← Resolved.tagged value "type" schemaTypes ms
  ofType (← Resolved.known t.fields rest) t

def asUntyped (ms : Members) : Result Schema := do
  ofProperties (← Resolved.known untypedFields ms)

def ofMembers (ms : Members) : Result Schema :=
  firstOf [asReference ms, asTyped ms, asUntyped ms]

/-- In a sequence the type comes first. -/
def itemsTyped : List Reading → Result Schema
  | [] => fail (.missingField "type")
  | x :: xs => do
    let t ← Resolved.variant schemaTypes x.value
    ofType (← Resolved.positional t.fields xs) t

def itemsUntyped (xs : List Reading) : Result Schema := do
  ofProperties (← Resolved.positional untypedFields xs)

def ofItems (xs : List Reading) : Result Schema := firstOf [itemsTyped xs, itemsUntyped xs]

def entries : Members → Result (List (String × Schema))
  | [] => .ok []
  | (k, x) :: ms => do
    let k ← Resolved.text k
    let s ← x.schema
    let es ← entries ms
    return (k, s) :: es

def tableOf (ms : Members) : Result (List (String × Schema)) := do
  return (OrderedMap.ofList (← entries ms)).entries

def plain (c : Content) : Reading :=
  ⟨c, fail (.noVariant "SchemaObject"), wrongType (.ofContent c) "a map"⟩

mutual

def of : Content → Reading
  | .null => plain .null
  | .bool b => plain (.bool b)
  | .number n => plain (.number n)
  | .text s => plain (.text s)
  | .sequence xs =>
    ⟨.sequence xs, ofItems (ofEach xs), wrongType .sequence "a map"⟩
  | .mapping ms =>
    let rs := ofValues ms
    ⟨.mapping ms, ofMembers rs, tableOf rs⟩

def ofEach : List Content → List Reading
  | [] => []
  | x :: xs => of x :: ofEach xs

def ofValues : List (Content × Content) → Members
  | [] => []
  | (k, x) :: ms => (k, of x) :: ofValues ms

end

theorem of_value (c : Content) : (of c).value = c := by
  cases c <;> simp [of, plain]

end Reading

def Resolved.schema (c : Content) : Result Schema := (Reading.of c).schema

def readSchema (p : Place) (n : Node) : Visit Schema := do
  Resolved.schema (← content p n)

end TypedClient.Decode
