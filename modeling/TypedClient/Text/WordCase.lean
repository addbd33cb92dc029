import TypedClient.Text.Alphanumeric
import TypedClient.Text.Cased

/-!
The words of a name and names built from words. A character that is neither letter nor digit
separates words, and so does a change from lower to upper case; of several upper case characters
before a lower case one the last begins the next word.
-/

set_option autoImplicit false

namespace TypedClient.Text

inductive WordState where
  | fresh
  | lower
  | upper
  deriving DecidableEq, Repr

def WordState.next (m : WordState) (c : Char) : WordState :=
  if isLower c then .lower else if isUpper c then .upper else m

/-- The words of a run of letters and digits, `word` holding the open one, last character first. -/
def wordsFrom : List Char → WordState → List Char → List (List Char)
  | word, _, [] => [word.reverse]
  | word, _, [c] => [(c :: word).reverse]
  | word, m, c :: d :: s =>
    if m.next c = .lower ∧ isUpper d then
      (c :: word).reverse :: wordsFrom [] .fresh (d :: s)
    else if m = .upper ∧ isUpper c ∧ isLower d then
      word.reverse :: wordsFrom [c] .fresh (d :: s)
    else wordsFrom (c :: word) (m.next c) (d :: s)

def runsFrom : List Char → List Char → List (List Char)
  | run, [] => [run.reverse]
  | run, c :: s =>
    if isAlphanumeric c then runsFrom (c :: run) s else run.reverse :: runsFrom [] s

def words (s : List Char) : List (List Char) :=
  ((runsFrom [] s).filter fun r => !r.isEmpty).flatMap (wordsFrom [] .fresh)

/-- A capital sigma that ends a word becomes the final small one. -/
def lowerWord : List Char → List Char
  | [] => []
  | ['Σ'] => ['ς']
  | c :: s => lower c ++ lowerWord s

def capitalWord : List Char → List Char
  | [] => []
  | c :: s => raise c ++ lowerWord s

def pascalCase (s : String) : String := String.ofList ((words s.toList).flatMap capitalWord)

def camelCase (s : String) : String :=
  match words s.toList with
  | [] => ""
  | w :: ws => String.ofList (lowerWord w ++ ws.flatMap capitalWord)

end TypedClient.Text
