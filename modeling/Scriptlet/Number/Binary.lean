set_option autoImplicit false

namespace Scriptlet.Number

-- The numerator of `2 ^ exponent`; the denominator is that of the opposite exponent.
def twoTo (exponent : Int) : Nat := Nat.pow 2 exponent.toNat

-- The numerator of `10 ^ exponent`; the denominator is that of the opposite exponent.
def tenTo (exponent : Int) : Nat := Nat.pow 10 exponent.toNat

structure Dyadic where
  mantissa : Nat
  exponent : Int
deriving DecidableEq, Repr

inductive Parts where
  | nan
  | infinite (negative : Bool)
  | finite (negative : Bool) (magnitude : Dyadic)
deriving DecidableEq, Repr

def leastExponent : Int := -1074

def fullMantissa : Nat := twoTo 52

-- The encoding of a negative number is that of its magnitude plus this bit.
def signBit : Nat := twoTo 63

-- The exact parts of a number. A mantissa below `fullMantissa` occurs at the least exponent only.
def parts (x : Float) : Parts :=
  let bits := x.toBits.toNat
  let negative : Bool := signBit ≤ bits
  let field := bits / fullMantissa % 2048
  let fraction := bits % fullMantissa
  if field = 2047 then
    if fraction = 0 then .infinite negative else .nan
  else if field = 0 then
    .finite negative ⟨fraction, leastExponent⟩
  else
    .finite negative ⟨fullMantissa + fraction, leastExponent + field - 1⟩

def ratioOver (num den : Nat) (exponent : Int) : Nat × Nat :=
  (num * twoTo (-exponent), den * twoTo exponent)

-- The greatest `k` with `2 ^ k ≤ num / den`, for positive `num` and `den`.
def binaryLog (num den : Nat) : Int :=
  let guess : Int := num.log2 - den.log2
  let (n, d) := ratioOver num den guess
  if d ≤ n then guess else guess - 1

-- The integer nearest to `num / den`; a half goes to the even neighbour.
def roundHalfEven (num den : Nat) : Nat :=
  let quotient := num / den
  let twice := 2 * (num % den)
  if den < twice || (twice = den && quotient % 2 = 1) then quotient + 1 else quotient

-- The encoding of the magnitude nearest to `num / den`: neighbouring magnitudes have
-- neighbouring encodings, so a mantissa that rounds up to 54 bits carries into the exponent, and
-- everything beyond the largest magnitude is infinite.
def nearestBits (num den : Nat) : Nat :=
  if num = 0 then 0
  else
    let exponent := max (binaryLog num den - 52) leastExponent
    let (n, d) := ratioOver num den exponent
    min ((exponent - leastExponent).toNat * fullMantissa + roundHalfEven n d) (2047 * fullMantissa)

def ofRatio (negative : Bool) (num den : Nat) : Float :=
  Float.ofBits (UInt64.ofNat (nearestBits num den + if negative then signBit else 0))

def Dyadic.toFloat (negative : Bool) (d : Dyadic) : Float :=
  ofRatio negative (d.mantissa * twoTo d.exponent) (twoTo (-d.exponent))

def nan : Float := 0.0 / 0.0

def infinity (negative : Bool) : Float := if negative then -1.0 / 0.0 else 1.0 / 0.0

end Scriptlet.Number
