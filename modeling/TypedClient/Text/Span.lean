set_option autoImplicit false

namespace TypedClient.Text

/-- Every `step`-th code from `first` to `last`. -/
structure Span where
  first : Nat
  last : Nat
  step : Nat
  deriving DecidableEq, Repr

def Span.holds (s : Span) (n : Nat) : Bool :=
  s.first ≤ n && n ≤ s.last && (n - s.first) % s.step == 0

def inSpans (spans : List Span) (n : Nat) : Bool := spans.any (·.holds n)

end TypedClient.Text
