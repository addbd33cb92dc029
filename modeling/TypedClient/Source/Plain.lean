import TypedClient.Source.Node

/-!
What a scalar stands for when no reader says what it wants: words for null and truth, integers in
four bases, decimal numbers, and text for all else. A tag of the core set asks for one of them.
-/

set_option autoImplicit false

namespace TypedClient.Source

open Decimal (Binary64)

namespace Plain

def isNull (s : String) : Bool := s == "~" || s == "null" || s == "Null" || s == "NULL"

def bool? (s : String) : Option Bool :=
  if s == "true" || s == "True" || s == "TRUE" then some true
  else if s == "false" || s == "False" || s == "FALSE" then some false
  else none

def digit? (base : Nat) (c : Char) : Option Nat :=
  let n :=
    if c.isDigit then c.toNat - '0'.toNat
    else if 'a' ≤ c ∧ c ≤ 'z' then c.toNat - 'a'.toNat + 10
    else if 'A' ≤ c ∧ c ≤ 'Z' then c.toNat - 'A'.toNat + 10
    else base
  if n < base then some n else none

def digits? (base : Nat) : Nat → List Char → Option Nat
  | n, [] => some n
  | n, c :: cs => (digit? base c).bind fun d => digits? base (n * base + d) cs

def natural? (base : Nat) : List Char → Option Nat
  | [] => none
  | cs => digits? base 0 cs

def hasLeadingZero : List Char → Bool
  | '0' :: c :: cs => (c :: cs).all Char.isDigit
  | _ => false

def magnitude? : List Char → Option Nat
  | '0' :: 'x' :: cs => natural? 16 cs
  | '0' :: 'o' :: cs => natural? 8 cs
  | '0' :: 'b' :: cs => natural? 2 cs
  | cs => if hasLeadingZero cs then none else natural? 10 cs

/-- An integer, or that it is too long for 64 bits and yet within 128. -/
inductive Whole where
  | fits (value : Int)
  | tooLong
  deriving DecidableEq, Repr

def unsigned? (n : Nat) : Option Whole :=
  if n < Nat.pow 2 64 then some (.fits n)
  else if n < Nat.pow 2 128 then some .tooLong
  else none

def negative? (n : Nat) : Option Whole :=
  if n ≤ Nat.pow 2 63 then some (.fits (-(n : Int)))
  else if n ≤ Nat.pow 2 127 then some .tooLong
  else none

def integer? : List Char → Option Whole
  | '-' :: cs => (magnitude? cs).bind negative?
  | '+' :: cs => (magnitude? cs).bind unsigned?
  | cs => (magnitude? cs).bind unsigned?

def exponent? : List Char → Option Int
  | [] => some 0
  | e :: cs =>
    if e = 'e' ∨ e = 'E' then
      match cs with
      | '-' :: ds => (natural? 10 ds).map fun n => -(n : Int)
      | '+' :: ds => (natural? 10 ds).map fun n => (n : Int)
      | ds => (natural? 10 ds).map fun n => (n : Int)
    else none

def decimal? (cs : List Char) : Option Binary64 := do
  let (whole, rest) := cs.span Char.isDigit
  let (fraction, rest) :=
    match rest with
    | '.' :: rest => rest.span Char.isDigit
    | rest => ([], rest)
  let n ← natural? 10 (whole ++ fraction)
  let e ← exponent? rest
  Binary64.nearest? n (e - fraction.length)

def isInfinite (cs : List Char) : Bool :=
  cs == ['.', 'i', 'n', 'f'] || cs == ['.', 'I', 'n', 'f'] || cs == ['.', 'I', 'N', 'F']

def isNaN (cs : List Char) : Bool :=
  cs == ['.', 'n', 'a', 'n'] || cs == ['.', 'N', 'a', 'N'] || cs == ['.', 'N', 'A', 'N']

def float? : List Char → Option Number
  | '-' :: cs =>
    if isInfinite cs then some .unbounded else (decimal? cs).map fun x => .float x.negate
  | '+' :: cs =>
    if isInfinite cs then some .unbounded else (decimal? cs).map .float
  | cs =>
    if isInfinite cs || isNaN cs then some .unbounded else (decimal? cs).map .float

def ofSign : List Char → List Char
  | '-' :: cs => cs
  | '+' :: cs => cs
  | cs => cs

def resolve? (s : String) : Option Content :=
  if s == "" || isNull s then some .null
  else
    match bool? s with
    | some b => some (.bool b)
    | none =>
      match integer? s.toList with
      | some (.fits i) => some (.number (.integer i))
      | some .tooLong => none
      | none =>
        if hasLeadingZero (ofSign s.toList) then some (.text s)
        else
          match float? s.toList with
          | some x => some (.number x)
          | none => some (.text s)

end Plain

def resolve? (style : Style) (tag : Option Tag) (s : String) : Option Content :=
  match tag with
  | none => if style = .plain then Plain.resolve? s else some (.text s)
  | some t =>
    if t.isLabel then none
    else if t = .ofCore "bool" then (Plain.bool? s).map .bool
    else if t = .ofCore "int" then
      match Plain.integer? s.toList with
      | some (.fits i) => some (.number (.integer i))
      | _ => none
    else if t = .ofCore "float" then (Plain.float? s.toList).map .number
    else if t = .ofCore "null" then if Plain.isNull s then some .null else none
    else if t.isLocal && style = .plain then Plain.resolve? s
    else some (.text s)

namespace Scalar

def content? : Scalar → Option Content
  | .null => some .null
  | .bool b => some (.bool b)
  | .number n => some (.number n)
  | .text s => some (.text s)
  | .written style tag s => resolve? style tag s
  | .nothing => some .null

def text? : Scalar → Option String
  | .text s => some s
  | .written _ _ s => some s
  | _ => none

def bool? : Scalar → Option Bool
  | .bool b => some b
  | .written style tag s =>
    if style = .plain ∨ (style = .literal ∧ tag = some (.ofCore "bool")) then Plain.bool? s
    else none
  | _ => none

def isBlank : Scalar → Bool
  | .written style _ s => style = .plain && s == ""
  | .nothing => true
  | _ => false

/-- Whether there is a value where one may be left out; none when a tag promises null and lies. -/
def isPresent? : Scalar → Option Bool
  | .null => some false
  | .written style tag s =>
    if style ≠ .plain then some true
    else
      match tag with
      | none => some (s != "" && !Plain.isNull s)
      | some t =>
        if t = .ofCore "null" then if Plain.isNull s then some false else none else some true
  | .nothing => some false
  | _ => some true

end Scalar

end TypedClient.Source
