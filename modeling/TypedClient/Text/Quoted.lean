/-!
Names and quoted literals of the generated code. A name that is no plain identifier is written as a
single-quoted literal; reading a literal back gives the text it was written for.
-/

set_option autoImplicit false

namespace TypedClient.Text.Quoted

def escape : List Char → List Char
  | [] => []
  | c :: s => if c = '\\' ∨ c = '\'' then '\\' :: c :: escape s else c :: escape s

def literal (s : List Char) : List Char := '\'' :: escape s ++ ['\'']

def breaksLine (c : Char) : Bool := c == '\n' || c == '\r'

/-- Reads up to the first quote that no backslash escapes. -/
def readBody : List Char → Option (List Char × List Char)
  | [] => none
  | '\'' :: rest => some ([], rest)
  | '\\' :: c :: rest => (readBody rest).map fun (s, tail) => (c :: s, tail)
  | '\\' :: [] => none
  | c :: rest =>
    if breaksLine c then none else (readBody rest).map fun (s, tail) => (c :: s, tail)

def read : List Char → Option (List Char × List Char)
  | '\'' :: rest => readBody rest
  | _ => none

theorem readBody_plain {c : Char} (rest : List Char) (hq : c ≠ '\'') (hb : c ≠ '\\')
    (hl : breaksLine c = false) :
    readBody (c :: rest) = (readBody rest).map fun (s, tail) => (c :: s, tail) := by
  rw [readBody] <;> simp_all

theorem readBody_escape (s tail : List Char) (h : ∀ c ∈ s, breaksLine c = false) :
    readBody (escape s ++ '\'' :: tail) = some (s, tail) := by
  induction s with
  | nil => rfl
  | cons c s ih =>
    have ih := ih fun d hd => h d (List.mem_cons_of_mem c hd)
    by_cases hc : c = '\\' ∨ c = '\''
    · simp [escape, hc, readBody, ih]
    · rw [not_or] at hc
      simp [escape, hc, readBody_plain _ hc.2 hc.1 (h c List.mem_cons_self), ih]

theorem read_literal (s tail : List Char) (h : ∀ c ∈ s, breaksLine c = false) :
    read (literal s ++ tail) = some (s, tail) := by
  simpa [literal, read] using readBody_escape s tail h

def begins (c : Char) : Bool := c.isAlpha || c == '_' || c == '$'

def continues (c : Char) : Bool := begins c || c.isDigit

/-- The plain identifiers; letters and digits beyond the basic ones do not count. -/
def isIdentifier : List Char → Bool
  | [] => false
  | c :: s => begins c && s.all continues

def quote (s : String) : String := String.ofList (literal s.toList)

/-- A property is named by its identifier, or by a literal when it has none. -/
def key (name : String) : String := if isIdentifier name.toList then name else quote name

end TypedClient.Text.Quoted
