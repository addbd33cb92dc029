import TypedClient.Source.Yaml.Tree

set_option autoImplicit false

namespace TypedClient.Source.Yaml

namespace Tree

mutual

def followed : Tree → List Nat
  | .alias n => [n]
  | .scalar _ _ _ _ => []
  | .sequence _ _ xs => followedItems xs
  | .mapping _ _ ms => followedMembers ms

def followedItems : List Tree → List Nat
  | [] => []
  | x :: xs => followed x ++ followedItems xs

def followedMembers : List (Tree × Tree) → List Nat
  | [] => []
  | (k, x) :: ms => followed k ++ followed x ++ followedMembers ms

end

mutual

def anchored : Tree → List (Nat × Tree)
  | .alias _ => []
  | .scalar anchor style tag text =>
    (anchor.map fun n => (n, .scalar anchor style tag text)).toList
  | .sequence anchor tag xs =>
    (anchor.map fun n => (n, .sequence anchor tag xs)).toList ++ anchoredItems xs
  | .mapping anchor tag ms =>
    (anchor.map fun n => (n, .mapping anchor tag ms)).toList ++ anchoredMembers ms

def anchoredItems : List Tree → List (Nat × Tree)
  | [] => []
  | x :: xs => anchored x ++ anchoredItems xs

def anchoredMembers : List (Tree × Tree) → List (Nat × Tree)
  | [] => []
  | (k, x) :: ms => anchored k ++ anchored x ++ anchoredMembers ms

end

mutual

def size : Tree → Nat
  | .alias _ => 1
  | .scalar _ _ _ _ => 1
  | .sequence _ _ xs => sizeItems xs + 2
  | .mapping _ _ ms => sizeMembers ms + 2

def sizeItems : List Tree → Nat
  | [] => 0
  | x :: xs => size x + sizeItems xs

def sizeMembers : List (Tree × Tree) → Nat
  | [] => 0
  | (k, x) :: ms => size k + size x + sizeMembers ms

end

mutual

/-- The node of a tree. The table tells what the aliases lead to; one that is not in it leads
nowhere. -/
def link (table : List (Nat × Node)) : Tree → Node
  | .alias n => (table.lookup n).elim (.refused .malformed) .alias
  | .scalar _ style tag text => .scalar (.written style tag text)
  | .sequence _ tag xs => .sequence (tag.any Tag.isLabel) (linkItems table xs) .closed
  | .mapping _ tag ms => .mapping (tag.any Tag.isLabel) (linkMembers table ms) .closed

def linkItems (table : List (Nat × Node)) : List Tree → List Node
  | [] => []
  | x :: xs => link table x :: linkItems table xs

def linkMembers (table : List (Nat × Node)) : List (Tree × Tree) → List (Node × Node)
  | [] => []
  | (k, x) :: ms => (link table k, link table x) :: linkMembers table ms

end

def linkAnchored (table : List (Nat × Node)) (anchored : List (Nat × Tree)) : List (Nat × Node) :=
  anchored.map fun (anchor, t) => (anchor, link table t)

/-- What the aliases lead to, as far as one can come by following so many of them one inside the
other. -/
def tableOf (anchored : List (Nat × Tree)) : Nat → List (Nat × Node)
  | 0 => []
  | n + 1 => linkAnchored (tableOf anchored n) anchored

/-- An alias leads to a scalar or into a collection, and readers give up before they are so many
collections deep. -/
def greatestDepth : Nat := 130

/-- What the aliases name, those that come last first: a name that is given again stands for what it
named last. -/
def named (t : Tree) : List (Nat × Tree) :=
  let used := t.followed
  t.anchored.reverse.filter fun a => used.contains a.1

def toNode (t : Tree) : Node := t.link (tableOf t.named greatestDepth)

end Tree

/-- The node of a text, and how many aliases may be followed in reading it: a hundred for each mark
of its tree. None when the text is malformed. -/
def document? (s : String) : Option (Node × Nat) := do
  match ← Tree.ofTokens? (← tokens? s) with
  | some t => return (t.toNode, 100 * t.size)
  | none => return (.scalar .nothing, 0)

end TypedClient.Source.Yaml
