import TypedClient.Source.Node

/-!
Reading the JSON notation. `JsonText.document` never fails: a fault of the text becomes a node of
the tree at the place where it stands.
-/

set_option autoImplicit false

namespace TypedClient.Source.JsonText

open Decimal (Binary64)

def isBlank (c : Char) : Bool := c == ' ' || c == '\n' || c == '\t' || c == '\r'

def skipBlanks (cs : List Char) : List Char := cs.dropWhile isBlank

def digitValue (c : Char) : Nat := c.toNat - '0'.toNat

def hexValue? (c : Char) : Option Nat :=
  if '0' ≤ c ∧ c ≤ '9' then some (c.toNat - '0'.toNat)
  else if 'a' ≤ c ∧ c ≤ 'f' then some (c.toNat - 'a'.toNat + 10)
  else if 'A' ≤ c ∧ c ≤ 'F' then some (c.toNat - 'A'.toNat + 10)
  else none

def hex4? (a b c d : Char) : Option Nat := do
  return (← hexValue? a) * 4096 + (← hexValue? b) * 256 + (← hexValue? c) * 16 + (← hexValue? d)

/-- What one escape or one plain character of a string stands for. A code may be half of a pair. -/
inductive Piece where
  | char (c : Char)
  | code (n : Nat)
  deriving DecidableEq, Repr

def escaped? : Char → Option Char
  | '"' => some '"'
  | '\\' => some '\\'
  | '/' => some '/'
  | 'b' => some '\x08'
  | 'f' => some '\x0c'
  | 'n' => some '\n'
  | 'r' => some '\r'
  | 't' => some '\t'
  | _ => none

/-- An escape by code needs four bytes of text after it, whatever they are. -/
def fourBytes (cs : List Char) : Bool := cs.foldl (fun n c => n + c.utf8Size) 0 ≥ 4

def codeFault (cs : List Char) : Fault := if fourBytes cs then .malformed else .truncated

def pieces : List Char → List Piece × Except Fault (List Char)
  | [] => ([], .error .truncated)
  | '"' :: rest => ([], .ok rest)
  | '\\' :: 'u' :: a :: b :: c :: d :: rest =>
    match hex4? a b c d with
    | some n => let (ps, r) := pieces rest; (.code n :: ps, r)
    | none => ([], .error (codeFault (a :: b :: c :: d :: rest)))
  | '\\' :: 'u' :: rest => ([], .error (codeFault rest))
  | '\\' :: c :: rest =>
    match escaped? c with
    | some e => let (ps, r) := pieces rest; (.char e :: ps, r)
    | none => ([], .error .malformed)
  | ['\\'] => ([], .error .truncated)
  | c :: rest =>
    if c.toNat < 32 then ([], .error .malformed)
    else let (ps, r) := pieces rest; (.char c :: ps, r)

def isHigh (n : Nat) : Bool := 0xD800 ≤ n && n ≤ 0xDBFF

def isLow (n : Nat) : Bool := 0xDC00 ≤ n && n ≤ 0xDFFF

/-- The characters of the pieces; the two halves of a pair make one, and a half alone makes none. -/
def characters : List Piece → Option (List Char)
  | [] => some []
  | .char c :: ps => (characters ps).map (c :: ·)
  | .code n :: .code m :: ps =>
    if isHigh n && isLow m then
      (characters ps).map (Char.ofNat (0x10000 + (n - 0xD800) * 0x400 + (m - 0xDC00)) :: ·)
    else if isHigh n || isLow n then none
    else (characters (.code m :: ps)).map (Char.ofNat n :: ·)
  | .code n :: ps =>
    if isHigh n || isLow n then none else (characters ps).map (Char.ofNat n :: ·)

def dropOpenHalf (ps : List Piece) : List Piece :=
  match ps.reverse with
  | .code n :: qs => if isHigh n then qs.reverse else ps
  | _ => ps

def string (cs : List Char) : Node × Except Fault (List Char) :=
  match pieces cs with
  | (ps, .ok rest) =>
    match characters ps with
    | some s => (.scalar (.text (String.ofList s)), .ok rest)
    | none => (.refused .malformed, .ok rest)
  | (ps, .error f) =>
    let read := if (characters (dropOpenHalf ps)).isNone then .malformed else f
    (.broken read f, .error f)

/-- Takes digits as long as the number they make stays at most `limit`; also counts the rest. -/
def gather (limit : Nat) : Nat → List Char → Nat × Nat
  | n, [] => (n, 0)
  | n, c :: cs =>
    let n' := n * 10 + digitValue c
    if n' > limit then (n, cs.length + 1) else gather limit n' cs

def greatestWord : Nat := Nat.pow 2 64 - 1

def greatestExponent : Nat := Nat.pow 2 31 - 1

structure Numeral where
  negative : Bool
  whole : List Char
  fraction : Option (List Char)
  exponent : Option (Bool × List Char)

/-- Digits beyond 64 bits only move the point. -/
def Numeral.magnitude? (n : Numeral) : Option Binary64 :=
  let (w, unread) := gather greatestWord 0 n.whole
  let (d, k) : Nat × Int :=
    match n.fraction with
    | none => (w, unread)
    | some f =>
      let (d, left) := gather greatestWord w f
      (d, (unread : Int) - ((f.length : Int) - left))
  match n.exponent with
  | none => Binary64.stepwise? d k
  | some (negative, es) =>
    match gather greatestExponent 0 es with
    | (e, 0) => Binary64.stepwise? d (if negative then k - e else k + e)
    | _ => if d = 0 || negative then some Binary64.zero else none

/-- A number without point and exponent is an integer when 64 bits hold it; minus zero is none. -/
def Numeral.value? (n : Numeral) : Option Number :=
  let float : Option Number :=
    n.magnitude?.map fun x => .float (if n.negative then x.negate else x)
  match n.fraction, n.exponent with
  | none, none =>
    match gather greatestWord 0 n.whole with
    | (w, 0) =>
      if !n.negative then some (.integer w)
      else if w = 0 ∨ w > Nat.pow 2 63 then float
      else some (.integer (-(w : Int)))
    | _ => float
  | _, _ => float

def spanDigits (cs : List Char) : List Char × List Char := cs.span Char.isDigit

/-- Where digits have to follow: too early an end is a fault of its own only to a reader. -/
def noDigits : List Char → Fault × Fault
  | [] => (.truncated, .malformed)
  | _ => (.malformed, .malformed)

def exponentPart (cs : List Char) :
    Except (Fault × Fault) (Option (Bool × List Char) × List Char) :=
  let digits (negative : Bool) (cs : List Char) :=
    match spanDigits cs with
    | ([], rest) => .error (noDigits rest)
    | (ds, rest) => .ok (some (negative, ds), rest)
  match cs with
  | 'e' :: '+' :: rest | 'E' :: '+' :: rest => digits false rest
  | 'e' :: '-' :: rest | 'E' :: '-' :: rest => digits true rest
  | 'e' :: rest | 'E' :: rest => digits false rest
  | rest => .ok (none, rest)

def fractionPart : List Char → Except (Fault × Fault) (Option (List Char) × List Char)
  | '.' :: cs =>
    match spanDigits cs with
    | ([], rest) => .error (noDigits rest)
    | (ds, rest) => .ok (some ds, rest)
  | rest => .ok (none, rest)

def wholePart (cs : List Char) : Except (Fault × Fault) (List Char × List Char) :=
  match spanDigits cs with
  | ([], rest) => .error (noDigits rest)
  | ('0' :: _ :: _, _) => .error (.malformed, .malformed)
  | (ds, rest) => .ok (ds, rest)

def numeral (negative : Bool) (cs : List Char) :
    Except (Fault × Fault) (Numeral × List Char) := do
  let (whole, cs) ← wholePart cs
  let (fraction, cs) ← fractionPart cs
  let (exponent, cs) ← exponentPart cs
  return (⟨negative, whole, fraction, exponent⟩, cs)

def number (negative : Bool) (cs : List Char) : Node × Option (List Char) :=
  match numeral negative cs with
  | .error (read, skipped) => (.broken read skipped, none)
  | .ok (n, rest) =>
    match n.value? with
    | some v => (.scalar (.number v), some rest)
    | none => (.refused .malformed, some rest)

def word (value : Scalar) : List Char → List Char → Node × Option (List Char)
  | [], rest => (.scalar value, some rest)
  | _ :: _, [] => (.broken .truncated .truncated, none)
  | w :: ws, c :: cs => if w = c then word value ws cs else (.broken .malformed .malformed, none)

def malformed : Node := .broken .malformed .malformed

def truncated : Node := .broken .truncated .truncated

mutual

/-- One value and the text after it; none when the text stops being readable within it. -/
def value : Nat → List Char → Node × Option (List Char)
  | 0, _ => (malformed, none)
  | fuel + 1, cs =>
    match skipBlanks cs with
    | [] => (truncated, none)
    | 'n' :: rest => word .null ['u', 'l', 'l'] rest
    | 't' :: rest => word (.bool true) ['r', 'u', 'e'] rest
    | 'f' :: rest => word (.bool false) ['a', 'l', 's', 'e'] rest
    | '"' :: rest => let (n, r) := string rest; (n, r.toOption)
    | '-' :: rest => number true rest
    | '[' :: rest =>
      let (xs, e, r) := items fuel true rest
      (.sequence false xs e, r)
    | '\x7b' :: rest =>
      let (ms, e, r) := members fuel true rest
      (.mapping false ms e, r)
    | c :: rest => if c.isDigit then number false (c :: rest) else (malformed, none)

def items : Nat → Bool → List Char → List Node × Ending × Option (List Char)
  | 0, _, _ => ([], .stopped .malformed .malformed, none)
  | fuel + 1, first, cs =>
    match skipBlanks cs with
    | [] => ([], .stopped .truncated .truncated, none)
    | ']' :: rest => ([], .closed, some rest)
    | ',' :: rest =>
      if first then ([malformed], .closed, none)
      else item fuel rest
    | rest => if first then item fuel rest else ([], .stopped .malformed .malformed, none)

def item : Nat → List Char → List Node × Ending × Option (List Char)
  | 0, _ => ([], .stopped .malformed .malformed, none)
  | fuel + 1, cs =>
    match value fuel cs with
    | (x, none) => ([x], .closed, none)
    | (x, some rest) =>
      let (xs, e, r) := items fuel false rest
      (x :: xs, e, r)

def members : Nat → Bool → List Char → List (Node × Node) × Ending × Option (List Char)
  | 0, _, _ => ([], .stopped .malformed .malformed, none)
  | fuel + 1, first, cs =>
    match skipBlanks cs with
    | [] => ([], .stopped .truncated .truncated, none)
    | '\x7d' :: rest => ([], .closed, some rest)
    | ',' :: rest =>
      if first then ([], .stopped .malformed .malformed, none) else member fuel (skipBlanks rest)
    | rest => if first then member fuel rest else ([], .stopped .malformed .malformed, none)

def member : Nat → List Char → List (Node × Node) × Ending × Option (List Char)
  | 0, _ => ([], .stopped .malformed .malformed, none)
  | _, [] => ([], .stopped .truncated .truncated, none)
  | fuel + 1, '"' :: cs =>
    match string cs with
    | (.broken read skipped, _) => ([], .stopped read skipped, none)
    | (_, .error f) => ([], .stopped f f, none)
    | (k, .ok cs) =>
      match skipBlanks cs with
      | [] => ([(k, truncated)], .closed, none)
      | ':' :: cs =>
        match value fuel cs with
        | (x, none) => ([(k, x)], .closed, none)
        | (x, some rest) =>
          let (ms, e, r) := members fuel false rest
          ((k, x) :: ms, e, r)
      | _ => ([(k, malformed)], .closed, none)
  | _, _ => ([], .stopped .malformed .malformed, none)

end

def document (s : String) : Node × Bool :=
  let cs := s.toList
  match value (3 * cs.length + 3) cs with
  | (n, none) => (n, false)
  | (n, some rest) => (n, !(skipBlanks rest).isEmpty)

end TypedClient.Source.JsonText
