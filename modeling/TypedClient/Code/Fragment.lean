import TypedClient.OrderedSet
import TypedClient.Text.Quoted

/-!
Pieces of generated code. A fragment holds the text of a type and the text of the codec that checks
it, always made together, what both need from other modules, and the definitions that they name.
-/

set_option autoImplicit false

namespace TypedClient.Code

/-- Putting things together in order, and what changes nothing when it is put to another. -/
class Merge (α : Type) where
  empty : α
  combine : α → α → α

section Merge

variable {α : Type} [Merge α]

def combineAll (xs : List α) : α := xs.foldl Merge.combine Merge.empty

/-- All in order, the separator between one and the next. -/
def intercalate (separator : α) : List α → α
  | [] => Merge.empty
  | x :: xs => xs.foldl (fun a y => Merge.combine (Merge.combine a separator) y) x

end Merge

structure Import where
  name : String
  path : String
  deriving DecidableEq, Repr

structure Fragment where
  type : String
  codec : String
  imports : List Import
  references : OrderedSet String
  deriving DecidableEq

def codecName (name : String) : String := name ++ "IO"

def Import.option : List Import :=
  [⟨"Option", "fp-ts/lib/Option"⟩, ⟨"createOptionFromNullable", "io-ts-types"⟩]

namespace Fragment

def plain (type codec : String) : Fragment := ⟨type, codec, [], .empty⟩

def empty : Fragment := plain "" ""

def combine (a b : Fragment) : Fragment :=
  ⟨a.type ++ b.type, a.codec ++ b.codec, a.imports ++ b.imports, a.references.union b.references⟩

instance : Merge Fragment := ⟨empty, combine⟩

def sameShape (a b : Fragment) : Bool := a.type == b.type && a.codec == b.codec

/-- Sameness for which the order of the references does not matter. -/
def same (a b : Fragment) : Bool :=
  a.sameShape b && a.imports == b.imports && a.references.sameItems b.references

def withoutReferences (f : Fragment) : Fragment := { f with references := .empty }

def array (f : Fragment) : Fragment :=
  { f with type := s!"Array<{f.type}>", codec := s!"t.array({f.codec})" }

def dictionary (f : Fragment) : Fragment :=
  { f with
    type := "\x7b [key: string]: " ++ f.type ++ " \x7d"
    codec := s!"t.dictionary(t.string, {f.codec})" }

def field (name : String) (f : Fragment) (required : Bool) : Fragment :=
  let key := Text.Quoted.key name
  if required then { f with type := s!"{key}: {f.type}", codec := s!"{key}: {f.codec}" }
  else
    { f with
      type := s!"{key}: Option<{f.type}>"
      codec := s!"{key}: createOptionFromNullable({f.codec})"
      imports := f.imports ++ Import.option }

def fieldSeparator : Fragment := plain "; " ", "

def recursive (name codec : String) : String :=
  s!"t.recursion<{name}>('{codecName name}', {codecName name} => {codec})"

/-- The object of the fields; `recursion` names the definition that the fields refer back to. -/
def object (fields : Fragment) (recursion : Option String) : Fragment :=
  let bare := fields.type.isEmpty
  let type := if bare then "\x7b\x7d" else "\x7b " ++ fields.type ++ " \x7d"
  let codec := if bare then "t.type(\x7b\x7d)" else "t.type(\x7b " ++ fields.codec ++ " \x7d)"
  let codec :=
    match recursion with
    | some name => recursive name codec
    | none => codec
  ⟨type, codec, fields.imports, .empty⟩

theorem empty_combine (f : Fragment) : combine empty f = f := by
  cases f
  simp [combine, empty, plain, OrderedSet.empty_union]

theorem combine_empty (f : Fragment) : combine f empty = f := by
  cases f
  simp [combine, empty, plain, OrderedSet.union_empty]

end Fragment

/-- A fragment made of parameters, and whether one of them has to be given. -/
structure Bag where
  fragment : Fragment
  required : Bool
  deriving DecidableEq

namespace Bag

def empty : Bag := ⟨.empty, false⟩

def combine (a b : Bag) : Bag := ⟨a.fragment.combine b.fragment, a.required || b.required⟩

instance : Merge Bag := ⟨empty, combine⟩

end Bag

def importedNames (imports : List Import) (path : String) : List String :=
  distinct ((imports.filter fun i => i.path == path).map Import.name)

def importLine (imports : List Import) (path : String) : String :=
  "import \x7b " ++ ", ".intercalate (importedNames imports path) ++ s!" \x7d from '{path}';"

/-- One line for each module, in the order in which the modules are first needed. -/
def importLines (imports : List Import) : List String :=
  (distinct (imports.map Import.path)).map (importLine imports)

end TypedClient.Code
