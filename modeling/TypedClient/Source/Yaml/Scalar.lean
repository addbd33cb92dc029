import TypedClient.Source.Yaml.Cursor

set_option autoImplicit false

namespace TypedClient.Source.Yaml

/-- What stands between two words: blanks on one line, or the first break and those that follow. -/
structure Gap where
  blanks : List Char
  broken : Bool
  first : List Char
  others : List Char

def Gap.none : Gap := ⟨[], false, [], []⟩

def fold (first others : List Char) : List Char :=
  if first = ['\n'] then if others.isEmpty then [' '] else others else first ++ others

def Gap.text (g : Gap) : List Char := if g.broken then fold g.first g.others else g.blanks

/-- Passes blanks and breaks. No tab may stand before the column `indent` on a new line. -/
def gap? (indent : Nat) : Nat → Cursor → Gap → Option (Gap × Cursor)
  | 0, c, g => some (g, c)
  | fuel + 1, c, g =>
    match c.rest with
    | [] => some (g, c)
    | d :: _ =>
      if isBlank d then
        if !g.broken then gap? indent fuel (c.advance 1) { g with blanks := g.blanks ++ [d] }
        else if d == '\t' && c.column < indent then none
        else gap? indent fuel (c.advance 1) g
      else if isBreak d then
        if g.broken then gap? indent fuel c.nextLine { g with others := g.others ++ c.breakText }
        else gap? indent fuel c.nextLine ⟨[], true, c.breakText, []⟩
      else some (g, c)

def isFlowMark (c : Char) : Bool := c == ',' || c == '[' || c == ']' || c == '\x7b' || c == '\x7d'

/-- A word of a plain scalar. In a flow collection no mark may follow a colon directly. -/
def plainWord? (flow : Bool) : List Char → Option (List Char)
  | [] => some []
  | d :: rest =>
    if endsWord (some d) then some []
    else if flow && d == ':' && rest.head?.any (fun e => isFlowMark e || e == '?') then none
    else if (d == ':' && endsWord rest.head?) || (flow && isFlowMark d) then some []
    else (plainWord? flow rest).map (d :: ·)

/-- The words of a plain scalar and whether a line ends behind them. A scalar outside flow
collections ends before a line that begins left of `indent`. -/
def plain? (flow : Bool) (indent : Nat) :
    Nat → Cursor → List Char → Gap → Option (List Char × Bool × Cursor)
  | 0, c, text, g => some (text, g.broken, c)
  | fuel + 1, c, text, g =>
    if c.atDocumentMark || c.peek = some '#' then some (text, g.broken, c)
    else do
      let word ← plainWord? flow c.rest
      let c := c.advance word.length
      let (text, g) := if word.isEmpty then (text, g) else (text ++ g.text ++ word, Gap.none)
      if c.peek.isSome && endsWord c.peek then
        let (g, c) ← gap? indent (c.left + 1) c g
        if !flow && c.column < indent then some (text, g.broken, c)
        else plain? flow indent fuel c text g
      else some (text, g.broken, c)

def quotedGap? (c : Cursor) (g : Gap) : Option (List Char × Cursor) := do
  let (g, c) ← gap? 0 (c.left + 1) c g
  if c.atDocumentMark then none else some (g.text, c)

def singleQuoted? : Nat → Cursor → List Char → Option (List Char × Cursor)
  | 0, _, _ => none
  | fuel + 1, c, text =>
    match c.rest with
    | [] => none
    | '\'' :: '\'' :: _ => singleQuoted? fuel (c.advance 2) ('\'' :: text)
    | '\'' :: _ => some (text.reverse, c.advance 1)
    | d :: _ =>
      if endsWord (some d) then do
        let (between, c) ← quotedGap? c .none
        singleQuoted? fuel c (between.reverse ++ text)
      else singleQuoted? fuel (c.advance 1) (d :: text)

def escaped? : Char → Option Char
  | '0' => some '\x00'
  | 'a' => some '\x07'
  | 'b' => some '\x08'
  | 't' => some '\t'
  | '\t' => some '\t'
  | 'n' => some '\n'
  | 'v' => some '\x0b'
  | 'f' => some '\x0c'
  | 'r' => some '\r'
  | 'e' => some '\x1b'
  | ' ' => some ' '
  | '"' => some '"'
  | '/' => some '/'
  | '\\' => some '\\'
  | 'N' => some '\x85'
  | '_' => some '\xa0'
  | 'L' => some '\u2028'
  | 'P' => some '\u2029'
  | _ => none

def codeLength? : Char → Option Nat
  | 'x' => some 2
  | 'u' => some 4
  | 'U' => some 8
  | _ => none

def hexDigit? (c : Char) : Option Nat :=
  if '0' ≤ c ∧ c ≤ '9' then some (c.toNat - '0'.toNat)
  else if 'a' ≤ c ∧ c ≤ 'f' then some (c.toNat - 'a'.toNat + 10)
  else if 'A' ≤ c ∧ c ≤ 'F' then some (c.toNat - 'A'.toNat + 10)
  else none

def code? : Nat → Nat → List Char → Option Nat
  | 0, value, _ => some value
  | _ + 1, _, [] => none
  | n + 1, value, c :: cs => do code? n (value * 16 + (← hexDigit? c)) cs

def charOfCode? (n : Nat) : Option Char := if n.isValidChar then some (Char.ofNat n) else none

def escape? : List Char → Option (Char × Nat)
  | [] => none
  | d :: rest =>
    match escaped? d with
    | some e => some (e, 2)
    | none => do
      let n ← codeLength? d
      let e ← charOfCode? (← code? n 0 rest)
      return (e, 2 + n)

def doubleQuoted? : Nat → Cursor → List Char → Option (List Char × Cursor)
  | 0, _, _ => none
  | fuel + 1, c, text =>
    match c.rest with
    | [] => none
    | '"' :: _ => some (text.reverse, c.advance 1)
    | '\\' :: rest =>
      if rest.head?.any isBreak then do
        let c := (c.advance 1).nextLine
        if c.peek = some '"' then doubleQuoted? fuel c text
        else
          let (between, c) ← quotedGap? c ⟨[], true, [], []⟩
          doubleQuoted? fuel c (between.reverse ++ text)
      else do
        let (d, n) ← escape? rest
        doubleQuoted? fuel (c.advance n) (d :: text)
    | d :: _ =>
      if endsWord (some d) then do
        let (between, c) ← quotedGap? c .none
        doubleQuoted? fuel c (between.reverse ++ text)
      else doubleQuoted? fuel (c.advance 1) (d :: text)

inductive Chomping where
  | strip
  | clip
  | keep
  deriving DecidableEq, Repr

def chomping? : Option Char → Option Chomping
  | some '-' => some .strip
  | some '+' => some .keep
  | _ => none

def indentation? : Option Char → Option Nat
  | some d => if d.isDigit then some (d.toNat - '0'.toNat) else none
  | none => none

def blockHead? (c : Cursor) : Option (Chomping × Option Nat × Cursor) :=
  match chomping? c.peek with
  | some chomping =>
    let c := c.advance 1
    match indentation? c.peek with
    | some 0 => none
    | some n => some (chomping, some n, c.advance 1)
    | none => some (chomping, none, c)
  | none =>
    match indentation? c.peek with
    | some 0 => none
    | some n =>
      let c := c.advance 1
      match chomping? c.peek with
      | some chomping => some (chomping, some n, c.advance 1)
      | none => some (.clip, some n, c)
    | none => some (.clip, none, c)

/-- Passes indentation up to the column `indent`, or any when it is not known yet, and empty lines.
Gives the breaks and the widest indentation met. -/
def blockBreaks? (indent : Option Nat) :
    Nat → Cursor → Nat → List Char → Option (Nat × List Char × Cursor)
  | 0, _, _, _ => none
  | fuel + 1, c, widest, breaks =>
    let inside (column : Nat) : Bool := indent.all fun n => column < n
    let spaces := (c.rest.takeWhile (· == ' ')).length
    let c := c.advance (match indent with
      | some n => min spaces (n - c.column)
      | none => spaces)
    let widest := max widest c.column
    if inside c.column && c.peek = some '\t' then none
    else if c.peek.any isBreak then
      blockBreaks? indent fuel c.nextLine widest (breaks ++ c.breakText)
    else some (widest, breaks, c)

/-- The lines of a block. `first` is the break of the last line and `others` the breaks after it;
`blank` tells whether that line began with a blank. -/
def blockLines? (literal : Bool) (indent : Nat) :
    Nat → Cursor → List Char → List Char → List Char → Bool →
      Option (List Char × List Char × List Char × Cursor)
  | 0, _, _, _, _, _ => none
  | fuel + 1, c, text, first, others, blank =>
    if c.column ≠ indent || c.peek.isNone then some (text, first, others, c)
    else do
      let starts := c.peek.any isBlank
      let joint :=
        if !literal && first = ['\n'] && !blank && !starts then
          if others.isEmpty then [' '] else others
        else first ++ others
      let line := c.rest.takeWhile fun d => !isBreak d
      let c := c.advance line.length
      let first := c.breakText
      let (_, others, c) ← blockBreaks? (some indent) (c.left + 1) c.passBreak 0 []
      blockLines? literal indent fuel c (text ++ joint ++ line) first others starts

def block? (literal : Bool) (parent : Option Nat) (c : Cursor) : Option (List Char × Cursor) := do
  let (chomping, given, c) ← blockHead? c
  let c ← c.endLine?
  let least := match parent with
    | some n => n + 1
    | none => 0
  let indent? := given.map fun n => match parent with
    | some m => m + n
    | none => n
  let (widest, others, c) ← blockBreaks? indent? (c.left + 1) c 0 []
  let indent := indent?.getD (max (max widest least) 1)
  let (text, first, others, c) ←
    blockLines? literal indent (c.left + 1) c [] [] others false
  let tail := match chomping with
    | .strip => []
    | .clip => first
    | .keep => first ++ others
  return (text ++ tail, c)

end TypedClient.Source.Yaml
