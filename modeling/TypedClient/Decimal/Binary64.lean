/-!
The finite numbers of the 64-bit binary format, by exact arithmetic on natural numbers: the number
nearest to a quotient, and products and quotients rounded once each.
-/

set_option autoImplicit false

namespace TypedClient.Decimal

def roundHalfEven (n d : Nat) : Nat :=
  let q := n / d
  let r := n % d
  if 2 * r > d ∨ (2 * r = d ∧ q % 2 = 1) then q + 1 else q

/-- The exponent of the greatest power of two that is at most `n / d`; both are positive. -/
def log2Quotient (n d : Nat) : Int :=
  let a := n.log2
  let b := d.log2
  if n * Nat.pow 2 b < d * Nat.pow 2 a then (a : Int) - b - 1 else (a : Int) - b

/-- The value `significand * 2 ^ exponent` with a sign. The significand has at most 53 bits; it has
53 unless the exponent is the least one, `-1074`. -/
structure Binary64 where
  negative : Bool
  significand : Nat
  exponent : Int
  deriving DecidableEq, Repr

namespace Binary64

def leastExponent : Int := -1074

def greatestExponent : Int := 971

def zero : Binary64 := ⟨false, 0, leastExponent⟩

def isZero (x : Binary64) : Bool := x.significand == 0

def ratio (x : Binary64) : Nat × Nat :=
  (x.significand * Nat.pow 2 x.exponent.toNat, Nat.pow 2 (-x.exponent).toNat)

def negate (x : Binary64) : Binary64 := { x with negative := !x.negative }

/-- The number nearest to `n / d`, ties to the even significand; none when it is too large. -/
def ofRatio? (n d : Nat) : Option Binary64 :=
  if n = 0 then some zero
  else
    let e := max (log2Quotient n d - 52) leastExponent
    let q := roundHalfEven (n * Nat.pow 2 (-e).toNat) (d * Nat.pow 2 e.toNat)
    let (m, e) := if q = Nat.pow 2 53 then (Nat.pow 2 52, e + 1) else (q, e)
    if e > greatestExponent then none else some ⟨false, m, e⟩

def mul? (x y : Binary64) : Option Binary64 :=
  ofRatio? (x.ratio.1 * y.ratio.1) (x.ratio.2 * y.ratio.2)

def div? (x y : Binary64) : Option Binary64 :=
  ofRatio? (x.ratio.1 * y.ratio.2) (x.ratio.2 * y.ratio.1)

def tenPower? (k : Nat) : Option Binary64 := ofRatio? (Nat.pow 10 k) 1

def greatestTenPower : Nat := 308

/-- `x * 10 ^ k` by at most `steps` multiplications or divisions, each of them rounded; none when
the result is too large. A magnitude that `steps` divisions do not reach is zero. -/
def scale? : Nat → Binary64 → Int → Option Binary64
  | 0, _, _ => some zero
  | steps + 1, x, k =>
    if k.natAbs ≤ greatestTenPower then
      (tenPower? k.natAbs).bind fun p => if 0 ≤ k then x.mul? p else x.div? p
    else if x.isZero then some x
    else if 0 ≤ k then none
    else
      ((tenPower? greatestTenPower).bind x.div?).bind fun y =>
        scale? steps y (k + greatestTenPower)

/-- `digits * 10 ^ k` with the digits rounded first and the power of ten applied in rounded steps;
the outcome may differ from the nearest number in the last bit. -/
def stepwise? (digits : Nat) (k : Int) : Option Binary64 :=
  (ofRatio? digits 1).bind fun x => scale? 4 x k

/-- The number nearest to `digits * 10 ^ k`. A power of ten far outside the format is not worked
out: the digits cannot bring it back. -/
def nearest? (digits : Nat) (k : Int) : Option Binary64 :=
  if digits = 0 then some zero
  else
    let size : Int := (Nat.toDigits 10 digits).length + k
    if size > 400 then none
    else if size < -400 then some zero
    else ofRatio? (digits * Nat.pow 10 k.toNat) (Nat.pow 10 (-k).toNat)

end Binary64

end TypedClient.Decimal
