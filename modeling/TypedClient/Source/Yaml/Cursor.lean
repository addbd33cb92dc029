set_option autoImplicit false

namespace TypedClient.Source.Yaml

def isBlank (c : Char) : Bool := c == ' ' || c == '\t'

def isBreak (c : Char) : Bool :=
  c == '\n' || c == '\r' || c == '\x85' || c == '\u2028' || c == '\u2029'

def endsLine : Option Char → Bool
  | none => true
  | some c => isBreak c

def endsWord : Option Char → Bool
  | none => true
  | some c => isBlank c || isBreak c

def isNameChar (c : Char) : Bool := c.isAlphanum || c == '-' || c == '_'

def isAllowed (c : Char) : Bool :=
  c == '\t' || c == '\n' || c == '\r' || c == '\x85' || (' ' ≤ c && c ≤ '~') ||
    ('\xa0' ≤ c && c ≤ '\ufffd') || 0x10000 ≤ c.toNat

def orderMark : Char := '\ufeff'

def size (cs : List Char) : Nat := cs.foldr (fun c n => c.utf8Size + n) 0

theorem size_append (xs ys : List Char) : size (xs ++ ys) = size xs + size ys := by
  induction xs with
  | nil => exact (Nat.zero_add (size ys)).symm
  | cons c cs ih =>
    change c.utf8Size + size (cs ++ ys) = c.utf8Size + size cs + size ys
    omega

theorem size_drop (n : Nat) (cs : List Char) : size (cs.drop n) = size cs - size (cs.take n) := by
  have h : size (cs.take n) + size (cs.drop n) = size cs := by
    rw [← size_append, List.take_append_drop]
  omega

/-- Every character takes a byte at least, so a reader that goes on by one character or more never
needs more steps than `left`. -/
structure Cursor where
  rest : List Char
  left : Nat
  line : Nat
  column : Nat
  size_rest : size rest = left

namespace Cursor

def start (cs : List Char) : Cursor := ⟨cs, size cs, 0, 0, rfl⟩

def peek (c : Cursor) : Option Char := c.rest.head?

def peekAt (c : Cursor) (n : Nat) : Option Char := c.rest[n]?

def advance (c : Cursor) (n : Nat) : Cursor :=
  ⟨c.rest.drop n, c.left - size (c.rest.take n), c.line, c.column + n, by
    rw [size_drop, c.size_rest]⟩

def breakLength : List Char → Nat
  | '\r' :: '\n' :: _ => 2
  | _ => 1

def nextLine (c : Cursor) : Cursor :=
  if c.rest.isEmpty then c
  else
    let n := breakLength c.rest
    ⟨c.rest.drop n, c.left - size (c.rest.take n), c.line + 1, 0, by
      rw [size_drop, c.size_rest]⟩

def breakText (c : Cursor) : List Char :=
  match c.rest with
  | '\u2028' :: _ => ['\u2028']
  | '\u2029' :: _ => ['\u2029']
  | d :: _ => if isBreak d then ['\n'] else []
  | [] => []

def passBreak (c : Cursor) : Cursor :=
  match c.rest with
  | d :: _ => if isBreak d then c.nextLine else c
  | [] => c

def skipWhile (p : Char → Bool) (c : Cursor) : Cursor :=
  c.advance (c.rest.takeWhile p).length

def skipBlanks (c : Cursor) : Cursor := c.skipWhile isBlank

def skipLine (c : Cursor) : Cursor := c.skipWhile fun d => !isBreak d

/-- Passes blanks and a comment up to the end of the line; none when something else stands there. -/
def endLine? (c : Cursor) : Option Cursor :=
  let c := c.skipBlanks
  let c := if c.peek = some '#' then c.skipLine else c
  if endsLine c.peek then some c.passBreak else none

def atMark (c : Cursor) (mark : Char) : Bool :=
  c.column == 0 && c.rest.take 3 == [mark, mark, mark] && endsWord (c.peekAt 3)

def atDocumentMark (c : Cursor) : Bool := c.atMark '-' || c.atMark '.'

end Cursor

end TypedClient.Source.Yaml
