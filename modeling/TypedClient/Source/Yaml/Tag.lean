import TypedClient.Source.Yaml.Scalar

set_option autoImplicit false

namespace TypedClient.Source.Yaml

/-- An address is a string of bytes. An escape may put any bytes into it that look like those of a
character, be there such a character or not. -/
abbrev Address := List UInt8

def isAddressChar (c : Char) : Bool := isNameChar c || ";/?:@&=+$.!~*'()".toList.contains c

def isAddressMark (c : Char) : Bool := c == ',' || c == '[' || c == ']'

def leadLength? (byte : Nat) : Option Nat :=
  if byte < 0x80 then some 1
  else if 0xC0 ≤ byte ∧ byte < 0xE0 then some 2
  else if 0xE0 ≤ byte ∧ byte < 0xF0 then some 3
  else if 0xF0 ≤ byte ∧ byte < 0xF8 then some 4
  else none

def escapedByte? : List Char → Option (Nat × List Char)
  | '%' :: a :: b :: rest => do return ((← hexDigit? a) * 16 + (← hexDigit? b), rest)
  | _ => none

def continuation? : Nat → List Char → Option (List Nat × List Char)
  | 0, cs => some ([], cs)
  | n + 1, cs => do
    let (byte, cs) ← escapedByte? cs
    if byte < 0x80 ∨ 0xC0 ≤ byte then none
    else
      let (bytes, cs) ← continuation? n cs
      return (byte :: bytes, cs)

def escapedBytes? (cs : List Char) : Option (Address × List Char) := do
  let (byte, cs) ← escapedByte? cs
  let n ← leadLength? byte
  let (bytes, cs) ← continuation? (n - 1) cs
  return ((byte :: bytes).map Nat.toUInt8, cs)

def byteOf (c : Char) : UInt8 := c.toNat.toUInt8

def address? (marks : Bool) : Nat → List Char → Option (Address × List Char)
  | 0, cs => some ([], cs)
  | fuel + 1, cs =>
    match cs with
    | [] => some ([], [])
    | '%' :: _ => do
      let (bytes, rest) ← escapedBytes? cs
      let (address, rest) ← address? marks fuel rest
      return (bytes ++ address, rest)
    | d :: rest =>
      if isAddressChar d || (marks && isAddressMark d) then do
        let (address, rest) ← address? marks fuel rest
        return (byteOf d :: address, rest)
      else some ([], d :: rest)

def addressAt? (marks : Bool) (head : List Char) (c : Cursor) : Option (Address × Cursor) := do
  let (address, rest) ← address? marks c.left c.rest
  if head.isEmpty && address.isEmpty then none
  else some ((head.drop 1).map byteOf ++ address, c.advance (c.rest.length - rest.length))

def Address.ended (a : Address) : Address := a.takeWhile (· != 0)

/-- A tag as written: its handle, which stands for the beginning of an address, and the rest. -/
structure TagName where
  handle : String
  suffix : Address
  deriving DecidableEq, Repr

def bareTag : TagName := ⟨"", ['!'].map byteOf⟩

def handle? (c : Cursor) : Option (List Char × Cursor) :=
  match c.rest with
  | '!' :: rest =>
    let name := rest.takeWhile isNameChar
    let close := (rest.drop name.length).takeWhile (· == '!') |>.take 1
    some ('!' :: name ++ close, c.advance (1 + name.length + close.length))
  | _ => none

def isHandle (handle : List Char) : Bool := handle.length ≥ 2 && handle.getLast? == some '!'

def tagName? (c : Cursor) : Option (TagName × Cursor) :=
  if c.peekAt 1 = some '<' then do
    let (suffix, c) ← addressAt? true [] (c.advance 2)
    if c.peek = some '>' then some (⟨"", suffix⟩, c.advance 1) else none
  else do
    let (handle, c) ← handle? c
    if isHandle handle then
      let (suffix, c) ← addressAt? false [] c
      some (⟨String.ofList handle, suffix⟩, c)
    else
      let (suffix, c) ← addressAt? false handle c
      some (if suffix.ended.isEmpty then bareTag else ⟨"!", suffix⟩, c)

def tag? (flow : Bool) (c : Cursor) : Option (TagName × Cursor) := do
  let (tag, c) ← tagName? c
  if endsWord c.peek || (flow && c.peek = some ',') then some (tag, c) else none

inductive Directive where
  | version (major minor : Nat)
  | tag (handle : String) (expansion : Address)
  deriving DecidableEq, Repr

def versionNumber? (c : Cursor) : Option (Nat × Cursor) :=
  let digits := c.rest.takeWhile Char.isDigit
  if digits.isEmpty || digits.length > 9 then none
  else some (digits.foldl (fun n d => n * 10 + (d.toNat - '0'.toNat)) 0, c.advance digits.length)

def versionDirective? (c : Cursor) : Option (Directive × Cursor) := do
  let (major, c) ← versionNumber? c.skipBlanks
  if c.peek = some '.' then
    let (minor, c) ← versionNumber? (c.advance 1)
    some (.version major minor, c)
  else none

def tagDirective? (c : Cursor) : Option (Directive × Cursor) := do
  let (handle, c) ← handle? c.skipBlanks
  if handle ≠ ['!'] && !isHandle handle then none
  else if !c.peek.any isBlank then none
  else
    let (expansion, c) ← addressAt? true [] c.skipBlanks
    if endsWord c.peek then some (.tag (String.ofList handle) expansion, c)
    else none

def directive? (c : Cursor) : Option (Directive × Cursor) := do
  let name := c.rest.takeWhile isNameChar
  let c := c.advance name.length
  if !endsWord c.peek then none
  else
    let (directive, c) ←
      if name = ['Y', 'A', 'M', 'L'] then versionDirective? c
      else if name = ['T', 'A', 'G'] then tagDirective? c
      else none
    return (directive, ← c.endLine?)

end TypedClient.Source.Yaml
