import Scriptlet.Number.Binary

/-!
The shortest decimal that reads back as a given number.

A number stands for an interval of reals, those that round to it. Of all grids of multiples of a
power of ten, the coarsest one with a point in the interval needs the fewest digits.
-/

set_option autoImplicit false

namespace Scriptlet.Number

structure Decimal where
  digits : Nat
  exponent : Int
deriving DecidableEq, Repr

-- A positive magnitude and the interval that rounds to it, all in quarters of the last place of
-- the mantissa. The ends belong to the interval if the mantissa is even.
structure Span where
  low : Nat
  centre : Nat
  high : Nat
  exponent : Int
  closed : Bool

-- The neighbour below is half as far away where the exponent changes.
def Dyadic.span (d : Dyadic) : Span where
  low := 4 * d.mantissa -
    if d.mantissa = fullMantissa && leastExponent < d.exponent then 1 else 2
  centre := 4 * d.mantissa
  high := 4 * d.mantissa + 2
  exponent := d.exponent - 2
  closed := d.mantissa % 2 = 0

-- The point of the grid `10 ^ exponent` in the interval that is nearest to the centre; the upper
-- one of two equally near points.
def Span.point? (s : Span) (exponent : Int) : Option Nat :=
  let step := tenTo exponent * twoTo (-s.exponent)
  let scale := tenTo (-exponent) * twoTo s.exponent
  let inside := fun (point : Nat) =>
    if s.closed then s.low * scale ≤ point * step && point * step ≤ s.high * scale
    else s.low * scale < point * step && point * step < s.high * scale
  let below := s.centre * scale / step
  let above := below + 1
  match inside below, inside above with
  | true, true =>
      if s.centre * scale - below * step < above * step - s.centre * scale then some below
      else some above
  | true, false => some below
  | false, true => some above
  | false, false => none

def Span.search (s : Span) : Nat → Int → Decimal
  | 0, exponent => ⟨0, exponent⟩
  | steps + 1, exponent =>
      match s.point? exponent with
      | some digits => ⟨digits, exponent⟩
      | none => s.search steps (exponent - 1)

-- The shortest decimal of a positive magnitude. The search starts at a power of ten above the
-- magnitude; seventeen digits tell any two numbers apart, so it has ended at `10 ^ -341`.
def Dyadic.shortest (d : Dyadic) : Decimal :=
  let whole := d.mantissa * twoTo d.exponent / twoTo (-d.exponent)
  let start := (Nat.toDigits 10 whole).length
  d.span.search (start + 342) start

end Scriptlet.Number
