import TypedClient.Source.Node
import TypedClient.Decimal.Shortest
import TypedClient.Text.Displayed

set_option autoImplicit false

namespace TypedClient.Decode

open Source (Fault Number Scalar Content)
open Decimal (Binary64)

inductive Found where
  | null
  | bool (value : Bool)
  | number (value : Number)
  | text (value : String)
  | sequence
  | mapping
  deriving DecidableEq, Repr

inductive Mismatch where
  | wrongType (found : Found) (expected : String)
  | wrongLength (length : Nat) (expected : String)
  | missingField (name : String)
  | duplicateField (name : String)
  | unknownVariant (name : String) (variants : List String)
  | wrongIndex (index : Int) (variants : Nat)
  | noVariant (type : String)
  | unresolved
  deriving DecidableEq, Repr

inductive Problem where
  | fault (f : Fault)
  | mismatch (m : Mismatch)
  deriving DecidableEq, Repr

def Number.describe : Number → String
  | .integer i => s!"integer `{i}`"
  | .float x => s!"floating point `{x.text}`"
  | .unbounded => "floating point"

def Found.describe : Found → String
  | .null => "null"
  | .bool b => s!"boolean `{b}`"
  | .number n => Number.describe n
  | .text s => s!"string {Text.display s}"
  | .sequence => "sequence"
  | .mapping => "map"

/-- `one of` stands before the names only when there are more than two. -/
def variantList : List String → String
  | [] => "there are no variants"
  | [a] => s!"expected `{a}`"
  | [a, b] => s!"expected `{a}` or `{b}`"
  | names => "expected one of " ++ ", ".intercalate (names.map fun n => s!"`{n}`")

def Mismatch.message : Mismatch → String
  | .wrongType found expected => s!"invalid type: {found.describe}, expected {expected}"
  | .wrongLength n expected => s!"invalid length {n}, expected {expected}"
  | .missingField name => s!"missing field `{name}`"
  | .duplicateField name => s!"duplicate field `{name}`"
  | .unknownVariant name variants => s!"unknown variant `{name}`, {variantList variants}"
  | .wrongIndex i n => s!"invalid value: integer `{i}`, expected variant index 0 <= i < {n}"
  | .noVariant type => s!"data did not match any variant of untagged enum {type}"
  | .unresolved => "value without a resolution"

def elements (n : Nat) : String := if n = 1 then "1 element" else s!"{n} elements"

abbrev Result (α : Type) := Except Problem α

def fail {α : Type} (m : Mismatch) : Result α := .error (.mismatch m)

def wrongType {α : Type} (found : Found) (expected : String) : Result α :=
  fail (.wrongType found expected)

def Found.ofContent : Content → Found
  | .null => .null
  | .bool b => .bool b
  | .number n => .number n
  | .text s => .text s
  | .sequence _ => .sequence
  | .mapping _ => .mapping

def Found.ofScalar : Scalar → Found
  | .null => .null
  | .bool b => .bool b
  | .number n => .number n
  | .text s => .text s
  | .written _ _ s => .text s
  | .nothing => .null

end TypedClient.Decode
