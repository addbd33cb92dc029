import TypedClient.Decimal.Shortest

/-!
Values of the document notation and their compact text. A record writes its entries in the order in
which it holds them; `Json.record` of a sorted list writes them sorted.
-/

set_option autoImplicit false

namespace TypedClient

/-- A value. Integers fit 64 bits, signed or not; other numbers are binary. -/
inductive Json where
  | null
  | bool (value : Bool)
  | integer (value : Int)
  | float (value : Decimal.Binary64)
  | text (value : String)
  | list (items : List Json)
  | record (entries : List (String × Json))

namespace Json

def hexDigit (n : Nat) : Char := "0123456789abcdef".toList.getD n '0'

def escapeChar (c : Char) : List Char :=
  match c with
  | '"' => ['\\', '"']
  | '\\' => ['\\', '\\']
  | '\n' => ['\\', 'n']
  | '\r' => ['\\', 'r']
  | '\t' => ['\\', 't']
  | '\x08' => ['\\', 'b']
  | '\x0c' => ['\\', 'f']
  | c =>
    if c.toNat < 32 then ['\\', 'u', '0', '0', hexDigit (c.toNat / 16), hexDigit (c.toNat % 16)]
    else [c]

def writeText (s : String) : String :=
  String.ofList ('"' :: s.toList.flatMap escapeChar ++ ['"'])

mutual

/-- The compact text: no blanks, entries in order. -/
def compact : Json → String
  | .null => "null"
  | .bool b => if b then "true" else "false"
  | .integer i => toString i
  | .float x => x.text
  | .text s => writeText s
  | .list xs => "[" ++ compactItems xs ++ "]"
  | .record es => "\x7b" ++ compactEntries es ++ "\x7d"

def compactItems : List Json → String
  | [] => ""
  | [x] => compact x
  | x :: y :: xs => compact x ++ "," ++ compactItems (y :: xs)

def compactEntries : List (String × Json) → String
  | [] => ""
  | [(k, x)] => writeText k ++ ":" ++ compact x
  | (k, x) :: e :: es => writeText k ++ ":" ++ compact x ++ "," ++ compactEntries (e :: es)

end

def putSorted (k : String) (v : Json) : List (String × Json) → List (String × Json)
  | [] => [(k, v)]
  | (k', v') :: es =>
    if k < k' then (k, v) :: (k', v') :: es
    else if k = k' then (k, v) :: es
    else (k', v') :: putSorted k v es

def sorted (es : List (String × Json)) : Json :=
  .record (es.foldl (fun sorted e => putSorted e.1 e.2 sorted) [])

end Json

end TypedClient
