import TypedClient.Api.Schema
import TypedClient.Code.Fragment

set_option autoImplicit false

namespace TypedClient.Code

open Api (Schema Additional)

/-- Where code stands: how it reaches the files of definitions, and the definition that it is part
of. A reference to that definition needs no import. -/
structure Scope where
  relative : String
  root : String
  deriving DecidableEq, Repr

def Scope.isOwn (s : Scope) (name : String) : Bool := s.root == name || s.root == codecName name

def Scope.imports (s : Scope) (name : String) : List Import :=
  if s.isOwn name then [] else [⟨name, s.relative ++ name⟩, ⟨codecName name, s.relative ++ name⟩]

def reference (s : Scope) (name : String) : Fragment :=
  ⟨name, codecName name, s.imports name, .singleton name⟩

def literalText : Json → String
  | .text s => s
  | v => v.compact

def literal (v : Json) : String := Text.Quoted.quote (literalText v)

def literalCodec (text : String) : String := s!"t.literal({text})"

def literals (values : List Json) : Fragment :=
  let texts := values.map literal
  .plain (" | ".intercalate texts)
    (match texts with
    | [text] => literalCodec text
    | _ => "t.union([" ++ ", ".intercalate (texts.map literalCodec) ++ "])")

def string : Fragment := .plain "string" "t.string"

def boolean : Fragment := .plain "boolean" "t.boolean"

def number : Fragment := .plain "number" "t.number"

def unknown : Fragment := .plain "unknown" "t.unknown"

def date : Fragment :=
  ⟨"Date", "DateFromISOString", [⟨"DateFromISOString", "io-ts-types"⟩], .empty⟩

/-- A string is one of its values, if it has any; else its format may make a date of it. -/
def stringFragment (format : Option String) (values : Option (List Json)) : Fragment :=
  match values.getD [] with
  | [] => if format = some "date-time" then date else string
  | v :: vs => literals (v :: vs)

/-- The object with the fields, recursive when they refer to the definition that it is part of. -/
def objectOf (s : Scope) (fields : List Fragment) : Fragment :=
  let f := intercalate Fragment.fieldSeparator fields
  f.object (if f.references.contains s.root then some s.root else none)

mutual

def schema (s : Scope) : Schema → Fragment
  | .reference path => reference s (Schema.definitionName path)
  | .string format values => stringFragment format values
  | .boolean => boolean
  | .integer _ => number
  | .number _ => number
  | .array items => (schema s items).array
  | .object _ _ (some (.like value)) => (schema s value).dictionary
  | .object _ _ (some (.allowed true)) => unknown.dictionary
  | .object none _ _ => Fragment.empty.object none
  | .object (some ps) required _ => objectOf s (fields s required ps)
  | .untyped ps required => objectOf s (fields s required ps)

def fields (s : Scope) (required : Option (List String)) :
    List (String × Schema) → List Fragment
  | [] => []
  | (name, p) :: ps =>
    (schema s p).field name (Schema.isRequired required name) :: fields s required ps

end

end TypedClient.Code
