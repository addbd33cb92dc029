import TypedClient.Decimal.Binary64

/-!
The shortest decimal digits that read back as a given number of the 64-bit format, and the text a
number gets in a document: positional within a window of exponents, scientific outside it.
-/

set_option autoImplicit false

namespace TypedClient.Decimal

def belowOrAt (ends : Bool) (x y : Nat × Nat) : Bool :=
  if ends then x.1 * y.2 ≤ y.1 * x.2 else x.1 * y.2 < y.1 * x.2

def shiftRatio (n : Nat) (e : Int) : Nat × Nat := (n * Nat.pow 2 e.toNat, Nat.pow 2 (-e).toNat)

def tenRatio (n : Nat) (k : Int) : Nat × Nat := (n * Nat.pow 10 k.toNat, Nat.pow 10 (-k).toNat)

namespace Binary64

def lowerHalf (x : Binary64) : Nat × Nat :=
  if x.significand = Nat.pow 2 52 ∧ x.exponent > leastExponent then
    shiftRatio (4 * x.significand - 1) (x.exponent - 2)
  else shiftRatio (2 * x.significand - 1) (x.exponent - 1)

def upperHalf (x : Binary64) : Nat × Nat := shiftRatio (2 * x.significand + 1) (x.exponent - 1)

/-- Whether a decimal reads back as `x`; a halfway point does when the significand is even. -/
def readsBack (x : Binary64) (r : Nat × Nat) : Bool :=
  let ends := x.significand % 2 == 0
  belowOrAt ends x.lowerHalf r && belowOrAt ends r x.upperHalf

def log10 (x : Binary64) : Int :=
  let (n, d) := x.ratio
  let guess := (log2Quotient n d * 30103).fdiv 100000
  if belowOrAt true (tenRatio 1 (guess + 1)) (n, d) then guess + 1
  else if belowOrAt true (tenRatio 1 guess) (n, d) then guess
  else guess - 1

/-- The neighbours of `x ≠ 0` on the grid of multiples of `10 ^ k`, the nearer first, the even one
first when both are as near. -/
def neighbours (x : Binary64) (k : Int) : List Nat :=
  let (n, d) := x.ratio
  let n' := n * Nat.pow 10 (-k).toNat
  let d' := d * Nat.pow 10 k.toNat
  let low := n' / d'
  if roundHalfEven n' d' = low then [low, low + 1] else [low + 1, low]

structure Digits where
  digits : Nat
  power : Int
  deriving DecidableEq, Repr

def Digits.trim : Nat → Digits → Digits
  | 0, t => t
  | fuel + 1, t => if t.digits % 10 = 0 then Digits.trim fuel ⟨t.digits / 10, t.power + 1⟩ else t

/-- Tries grids of finer and finer steps from `k` downwards, `tries` of them. -/
def shortestFrom (x : Binary64) : Nat → Int → Digits
  | 0, k => ⟨(x.neighbours k).headD 0, k⟩
  | tries + 1, k =>
    match (x.neighbours k).find? fun c => x.readsBack (tenRatio c k) with
    | some c => ⟨c, k⟩
    | none => shortestFrom x tries (k - 1)

/-- The fewest digits that read back as `x ≠ 0`, and of those the nearest to it. Seventeen always
do. -/
def shortest (x : Binary64) : Digits := Digits.trim 20 (shortestFrom x 16 x.log10)

end Binary64

/-- Where positional notation ends and how the scientific one is written. -/
structure Layout where
  least : Int
  greatest : Int
  exponentMark : String
  positiveSign : String

/-- Powers from `-5` to `15` are written out, a whole number with `.0`; other exponents carry their
sign. -/
def Layout.document : Layout := ⟨-5, 15, "e", "+"⟩

def Layout.write (l : Layout) (t : Binary64.Digits) : String :=
  let ds := Nat.toDigits 10 t.digits
  let top : Int := t.power + (ds.length : Int) - 1
  let zeros (n : Nat) : List Char := List.replicate n '0'
  if l.least ≤ top ∧ top ≤ l.greatest then
    if 0 ≤ t.power then String.ofList (ds ++ zeros t.power.toNat ++ ['.', '0'])
    else if 0 ≤ top then
      let whole := (top + 1).toNat
      String.ofList (ds.take whole ++ '.' :: ds.drop whole)
    else String.ofList ('0' :: '.' :: zeros (-top - 1).toNat ++ ds)
  else
    let fraction := ds.drop 1
    let body := if fraction.isEmpty then ds else ds.take 1 ++ '.' :: fraction
    let sign := if 0 ≤ top then l.positiveSign else "-"
    String.ofList body ++ l.exponentMark ++ sign ++ toString top.natAbs

def Binary64.text (x : Binary64) : String :=
  let body := if x.isZero then "0.0" else Layout.document.write x.shortest
  if x.negative then "-" ++ body else body

end TypedClient.Decimal
