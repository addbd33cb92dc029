import TypedClient.Text.Printable

set_option autoImplicit false

namespace TypedClient.Text

/-- `\u{…}` with the code in base sixteen. -/
def displayCode (c : Char) : List Char :=
  ['\\', 'u', '\x7b'] ++ Nat.toDigits 16 c.toNat ++ ['\x7d']

def displayChar (c : Char) : List Char :=
  match c with
  | '"' => ['\\', '"']
  | '\\' => ['\\', '\\']
  | '\n' => ['\\', 'n']
  | '\r' => ['\\', 'r']
  | '\t' => ['\\', 't']
  | '\x00' => ['\\', '0']
  | c => if isShown c then [c] else displayCode c

def display (s : String) : String :=
  String.ofList ('"' :: s.toList.flatMap displayChar ++ ['"'])

end TypedClient.Text
