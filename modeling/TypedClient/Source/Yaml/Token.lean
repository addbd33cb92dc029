import TypedClient.Source.Node
import TypedClient.Source.Yaml.Tag

/-!
The tokens of a YAML text. Indentation becomes tokens that open and close block collections. A key
on one line is known as one only by the colon behind it: its tokens are then set before it.
-/

set_option autoImplicit false

namespace TypedClient.Source.Yaml

inductive Token where
  | directive (d : Directive)
  | documentStart
  | documentEnd
  | blockSequenceStart
  | blockMappingStart
  | blockEnd
  | flowSequenceStart
  | flowSequenceEnd
  | flowMappingStart
  | flowMappingEnd
  | blockEntry
  | flowEntry
  | key
  | value
  | alias (name : String)
  | anchor (name : String)
  | tag (name : TagName)
  | scalar (style : Style) (text : String)
  deriving DecidableEq, Repr

structure KeyPlace where
  tokens : Nat
  required : Bool
  left : Nat
  line : Nat
  column : Nat

/-- The tokens so far, last first, and what decides about the next one: the columns of the open
block collections, the place of a possible key here and in each enclosing flow collection, and
whether a key may begin. -/
structure Scanner where
  cursor : Cursor
  columns : List Nat
  keyPlace : Option KeyPlace
  outer : List (Option KeyPlace)
  keyAllowed : Bool
  tokens : List Token
  count : Nat

namespace Scanner

def start (cs : List Char) : Scanner := ⟨.start cs, [], none, [], true, [], 0⟩

def inFlow (s : Scanner) : Bool := !s.outer.isEmpty

def push (s : Scanner) (t : Token) : Scanner :=
  { s with tokens := t :: s.tokens, count := s.count + 1 }

def insert (s : Scanner) (n : Nat) (ts : List Token) : Scanner :=
  let later := s.count - n
  { s with
    tokens := s.tokens.take later ++ ts.reverse ++ s.tokens.drop later
    count := s.count + ts.length }

def advance (s : Scanner) (n : Nat) : Scanner := { s with cursor := s.cursor.advance n }

def allowKey (s : Scanner) (allowed : Bool) : Scanner := { s with keyAllowed := allowed }

/-- Passes blanks, comments and line ends, and a mark of byte order at the beginning of a line. A tab
may not stand where a key may begin. -/
def skipSpace : Nat → Scanner → Scanner
  | 0, s => s
  | fuel + 1, s =>
    let tabs := s.inFlow || !s.keyAllowed
    let c := s.cursor
    let c := if c.column = 0 ∧ c.peek = some orderMark then c.advance 1 else c
    let c := c.skipWhile fun d => d == ' ' || (tabs && d == '\t')
    let c := if c.peek = some '#' then c.skipLine else c
    if c.peek.any isBreak then
      skipSpace fuel { s with cursor := c.nextLine, keyAllowed := s.keyAllowed || !s.inFlow }
    else { s with cursor := c }

/-- A key stands on one line and is at most 1024 bytes long. -/
def KeyPlace.isStale (k : KeyPlace) (c : Cursor) : Bool :=
  k.line < c.line || c.left + 1024 < k.left

def dropStale (c : Cursor) : Option KeyPlace → Option (Option KeyPlace)
  | none => some none
  | some k =>
    if KeyPlace.isStale k c then if k.required then none else some none else some (some k)

def dropStaleKeys (s : Scanner) : Option Scanner := do
  let here ← dropStale s.cursor s.keyPlace
  let outer ← s.outer.mapM (dropStale s.cursor)
  return { s with keyPlace := here, outer := outer }

def opensAt (s : Scanner) (column : Nat) : Bool :=
  !s.inFlow && s.columns.head?.all (· < column)

def closeTo (s : Scanner) (column : Nat) : Scanner :=
  if s.inFlow then s
  else
    let closed := s.columns.takeWhile (column < ·)
    { s with
      columns := s.columns.drop closed.length
      tokens := closed.map (fun _ => .blockEnd) ++ s.tokens
      count := s.count + closed.length }

def closeAll (s : Scanner) : Scanner :=
  if s.inFlow then s
  else
    { s with
      columns := []
      tokens := s.columns.map (fun _ => .blockEnd) ++ s.tokens
      count := s.count + s.columns.length }

def openBlock (s : Scanner) (t : Token) : Scanner :=
  if s.opensAt s.cursor.column then
    { s.push t with columns := s.cursor.column :: s.columns }
  else s

def forgetKey (s : Scanner) : Option Scanner :=
  match s.keyPlace with
  | some k => if k.required then none else some { s with keyPlace := none }
  | none => some s

def noteKey (s : Scanner) : Option Scanner :=
  if s.keyAllowed then do
    let required := !s.inFlow && s.columns.head? == some s.cursor.column
    let c := s.cursor
    let s ← s.forgetKey
    return { s with keyPlace := some ⟨s.count, required, c.left, c.line, c.column⟩ }
  else some s

def fetchDirective (s : Scanner) : Option Scanner := do
  let s ← s.closeAll.forgetKey
  let (d, c) ← directive? (s.cursor.advance 1)
  return { (s.allowKey false).push (.directive d) with cursor := c }

def fetchDocumentMark (s : Scanner) (t : Token) : Option Scanner := do
  let s ← s.closeAll.forgetKey
  return ((s.allowKey false).push t).advance 3

def fetchFlowStart (s : Scanner) (t : Token) : Option Scanner := do
  let s ← s.noteKey
  let s := { s with outer := s.keyPlace :: s.outer, keyPlace := none }
  return ((s.allowKey true).push t).advance 1

def fetchFlowEnd (s : Scanner) (t : Token) : Option Scanner := do
  let s ← s.forgetKey
  let s :=
    match s.outer with
    | [] => s
    | k :: outer => { s with keyPlace := k, outer := outer }
  return ((s.allowKey false).push t).advance 1

def fetchFlowEntry (s : Scanner) : Option Scanner := do
  let s ← s.forgetKey
  return ((s.allowKey true).push .flowEntry).advance 1

def fetchBlockEntry (s : Scanner) : Option Scanner :=
  if !s.inFlow && !s.keyAllowed then none
  else do
    let s ← (s.openBlock .blockSequenceStart).forgetKey
    return ((s.allowKey true).push .blockEntry).advance 1

def fetchKey (s : Scanner) : Option Scanner :=
  if !s.inFlow && !s.keyAllowed then none
  else do
    let s ← (s.openBlock .blockMappingStart).forgetKey
    return ((s.allowKey !s.inFlow).push .key).advance 1

/-- The value behind a key on one line sets the tokens of the key, and those of a mapping that begins
with it. -/
def fetchValue (s : Scanner) : Option Scanner :=
  match s.keyPlace with
  | some k =>
    let s :=
      if s.opensAt k.column then
        { s.insert k.tokens [.blockMappingStart, .key] with columns := k.column :: s.columns }
      else s.insert k.tokens [.key]
    let s := { s with keyPlace := none }
    some (((s.allowKey false).push .value).advance 1)
  | none =>
    if !s.inFlow && !s.keyAllowed then none
    else
      let s := s.openBlock .blockMappingStart
      some (((s.allowKey !s.inFlow).push .value).advance 1)

def endsName : Option Char → Bool
  | none => true
  | some c => endsWord (some c) || "?:,]\x7d%@`".toList.contains c

def fetchName (s : Scanner) (token : String → Token) : Option Scanner := do
  let s := (← s.noteKey).allowKey false
  let c := s.cursor.advance 1
  let name := c.rest.takeWhile isNameChar
  let c := c.advance name.length
  if name.isEmpty || !endsName c.peek then none
  else some { s.push (token (String.ofList name)) with cursor := c }

def fetchTag (s : Scanner) : Option Scanner := do
  let s := (← s.noteKey).allowKey false
  let (t, c) ← tag? s.inFlow s.cursor
  return { s.push (.tag t) with cursor := c }

def fetchBlock (s : Scanner) (literal : Bool) : Option Scanner := do
  let s := (← s.forgetKey).allowKey true
  let (text, c) ← block? literal s.columns.head? (s.cursor.advance 1)
  let style := if literal then .literal else .folded
  return { s.push (.scalar style (String.ofList text)) with cursor := c }

def fetchQuoted (s : Scanner) (double : Bool) : Option Scanner := do
  let s := (← s.noteKey).allowKey false
  let c := s.cursor.advance 1
  let fuel := c.left + 1
  let (text, c) ← if double then doubleQuoted? fuel c [] else singleQuoted? fuel c []
  let style := if double then .doubleQuoted else .singleQuoted
  return { s.push (.scalar style (String.ofList text)) with cursor := c }

def fetchPlain (s : Scanner) : Option Scanner := do
  let s := (← s.noteKey).allowKey false
  let indent := match s.columns.head? with
    | some n => n + 1
    | none => 0
  let (text, broken, c) ← plain? s.inFlow indent (s.cursor.left + 1) s.cursor [] .none
  return { (s.allowKey broken).push (.scalar .plain (String.ofList text)) with cursor := c }

def isMark (c : Char) : Bool := "-?:,[]\x7b\x7d#&*!|>'\"%@`".toList.contains c

def beginsPlain (flow : Bool) (d : Char) (next : Option Char) : Bool :=
  if d == '-' then !next.any isBlank
  else if d == '?' || d == ':' then !flow && !endsWord next
  else !isMark d && !endsWord (some d)

def fetch (s : Scanner) (d : Char) : Option Scanner :=
  let c := s.cursor
  let next := c.peekAt 1
  if c.column = 0 ∧ d = '%' then s.fetchDirective
  else if c.atMark '-' then s.fetchDocumentMark .documentStart
  else if c.atMark '.' then s.fetchDocumentMark .documentEnd
  else if d = '[' then s.fetchFlowStart .flowSequenceStart
  else if d = '\x7b' then s.fetchFlowStart .flowMappingStart
  else if d = ']' then s.fetchFlowEnd .flowSequenceEnd
  else if d = '\x7d' then s.fetchFlowEnd .flowMappingEnd
  else if d = ',' then s.fetchFlowEntry
  else if d = '-' ∧ endsWord next then s.fetchBlockEntry
  else if d = '?' ∧ (s.inFlow ∨ endsWord next) then s.fetchKey
  else if d = ':' ∧ (s.inFlow ∨ endsWord next) then s.fetchValue
  else if d = '*' then s.fetchName .alias
  else if d = '&' then s.fetchName .anchor
  else if d = '!' then s.fetchTag
  else if d = '|' ∧ !s.inFlow then s.fetchBlock true
  else if d = '>' ∧ !s.inFlow then s.fetchBlock false
  else if d = '\'' then s.fetchQuoted false
  else if d = '"' then s.fetchQuoted true
  else if beginsPlain s.inFlow d next then s.fetchPlain
  else none

def run : Nat → Scanner → Option (List Token)
  | 0, _ => none
  | fuel + 1, s => do
    let s ← (s.skipSpace (s.cursor.left + 1)).dropStaleKeys
    let s := s.closeTo s.cursor.column
    match s.cursor.peek with
    | none => return (← s.closeAll.forgetKey).tokens.reverse
    | some d => run fuel (← s.fetch d)

end Scanner

def tokens? (s : String) : Option (List Token) :=
  let cs := s.toList
  if cs.all isAllowed then (Scanner.start cs).run (cs.length + 1) else none

end TypedClient.Source.Yaml
