import Scriptlet.Number.Binary

set_option autoImplicit false

namespace Scriptlet.Number

def Dyadic.remainder (a b : Dyadic) : Dyadic :=
  let exponent := min a.exponent b.exponent
  let onGrid := fun (d : Dyadic) => d.mantissa * twoTo (d.exponent - exponent)
  ⟨onGrid a % onGrid b, exponent⟩

-- The remainder has the sign of the dividend. A zero divisor or an infinite dividend has none,
-- and an infinite divisor leaves the dividend as it is.
def remainder (x y : Float) : Float :=
  match parts x, parts y with
  | .finite negative a, .finite _ b =>
      if b.mantissa = 0 then nan else (a.remainder b).toFloat negative
  | .finite .., .infinite _ => x
  | _, _ => nan

end Scriptlet.Number
