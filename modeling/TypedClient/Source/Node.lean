import TypedClient.Decimal.Binary64

/-!
The tree of a document as its text stands. A text that goes wrong leaves a tree that ends where the
text does: reading the tree in order meets the first fault of the text, be it a fault of the text or
a value of the wrong shape.
-/

set_option autoImplicit false

namespace TypedClient.Source

open Decimal (Binary64)

inductive Fault where
  | malformed
  | truncated
  deriving DecidableEq, Repr

inductive Number where
  | integer (value : Int)
  | float (value : Binary64)
  | unbounded
  deriving DecidableEq, Repr

/-- How a scalar is written. Only a plain one may stand for something other than its text. -/
inductive Style where
  | plain
  | singleQuoted
  | doubleQuoted
  | literal
  | folded
  deriving DecidableEq, Repr

structure Tag where
  bytes : List UInt8
  deriving DecidableEq, Repr

namespace Tag

def core : Tag := ⟨"tag:yaml.org,2002:".toUTF8.toList⟩

def ofCore (name : String) : Tag := ⟨core.bytes ++ name.toUTF8.toList⟩

def isLocal (t : Tag) : Bool := t.bytes.head? == some 33

def isLabel (t : Tag) : Bool := t.isLocal && (String.fromUTF8? ⟨(t.bytes.drop 1).toArray⟩).isSome

end Tag

/-- A value without parts. `written` is one whose text is all there is to it until a reader wants a
value; `nothing` stands in a document without content. -/
inductive Scalar where
  | null
  | bool (value : Bool)
  | number (value : Number)
  | text (value : String)
  | written (style : Style) (tag : Option Tag) (text : String)
  | nothing
  deriving DecidableEq, Repr

/-- Where the parts of a collection end: at its closing mark, or where the text stops being
readable. Reading and skipping may call the same spot by different faults. -/
inductive Ending where
  | closed
  | stopped (read skipped : Fault)
  deriving DecidableEq, Repr

/-- A node. `labelled` tells of a collection with a label; `alias` leads to a node that stands
elsewhere and holds none that leads on at once; `refused` may be skipped but not read; the text ends
at `broken`. -/
inductive Node where
  | scalar (value : Scalar)
  | sequence (labelled : Bool) (items : List Node) (ending : Ending)
  | mapping (labelled : Bool) (members : List (Node × Node)) (ending : Ending)
  | alias (target : Node)
  | refused (fault : Fault)
  | broken (read skipped : Fault)

inductive Content where
  | null
  | bool (value : Bool)
  | number (value : Number)
  | text (value : String)
  | sequence (items : List Content)
  | mapping (members : List (Content × Content))

end TypedClient.Source
