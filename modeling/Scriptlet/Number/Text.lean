import Scriptlet.Number.Shortest

set_option autoImplicit false

namespace Scriptlet.Number

def fractionDigits (places fraction : Nat) : List Char :=
  let digits := Nat.toDigits 10 fraction
  let padded := List.replicate (places - digits.length) '0' ++ digits
  (padded.reverse.dropWhile (· = '0')).reverse

def Decimal.text (d : Decimal) : String :=
  if 0 ≤ d.exponent then
    Nat.repr (d.digits * tenTo d.exponent)
  else
    let unit := tenTo (-d.exponent)
    let whole := Nat.repr (d.digits / unit)
    match fractionDigits (-d.exponent).toNat (d.digits % unit) with
    | [] => whole
    | fraction => whole ++ "." ++ String.ofList fraction

def Dyadic.text (d : Dyadic) : String :=
  if d.mantissa = 0 then "0" else d.shortest.text

-- The text of a number. Zero keeps its sign, what is not a number has none.
def text (x : Float) : String :=
  match parts x with
  | .nan => "NaN"
  | .infinite negative => if negative then "-inf" else "inf"
  | .finite negative magnitude => if negative then "-" ++ magnitude.text else magnitude.text

end Scriptlet.Number
