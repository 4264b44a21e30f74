import Scriptlet.Number.Binary

/-!
Reading a number from its decimal text.

A text is an optional sign, then either a word for a special number or digits with an optional
point and an optional exponent. There is at least one digit beside the point.
-/

set_option autoImplicit false

namespace Scriptlet.Number

def readSign : List Char → Bool × List Char
  | '-' :: rest => (true, rest)
  | '+' :: rest => (false, rest)
  | rest => (false, rest)

def digitsValue (digits : List Char) : Nat :=
  digits.foldl (fun value c => 10 * value + (c.toNat - '0'.toNat)) 0

-- The value of the digits of an exponent. From 65536 on, which is out of range by far, further
-- digits are passed over.
def exponentValue (digits : List Char) : Nat :=
  digits.foldl
    (fun value c => if value < 65536 then 10 * value + (c.toNat - '0'.toNat) else value) 0

def readExponent? : List Char → Option Int
  | [] => some 0
  | e :: rest =>
      let (negative, digits) := readSign rest
      if (e = 'e' || e = 'E') && !digits.isEmpty && digits.all Char.isDigit then
        some (if negative then -(exponentValue digits : Int) else exponentValue digits)
      else none

-- The number nearest to `digits * 10 ^ exponent`. Magnitudes that lie far outside the range of
-- numbers are settled by their order alone.
def ofDecimal (negative : Bool) (digits : Nat) (exponent : Int) : Float :=
  if digits = 0 then ofRatio negative 0 1
  else if 400 < exponent then infinity negative
  else if exponent < -400 && (Nat.toDigits 10 digits).length + exponent < -400 then
    ofRatio negative 0 1
  else ofRatio negative (digits * tenTo exponent) (tenTo (-exponent))

def readDecimal? (negative : Bool) (text : List Char) : Option Float :=
  let whole := text.takeWhile Char.isDigit
  let afterWhole := text.dropWhile Char.isDigit
  let (fraction, rest) :=
    match afterWhole with
    | '.' :: more => (more.takeWhile Char.isDigit, more.dropWhile Char.isDigit)
    | _ => ([], afterWhole)
  if whole.isEmpty && fraction.isEmpty then none
  else (readExponent? rest).map fun exponent =>
    ofDecimal negative (digitsValue (whole ++ fraction)) (exponent - fraction.length)

def readWord? (negative : Bool) (text : List Char) : Option Float :=
  let word := String.ofList (text.map Char.toLower)
  if word = "nan" then some nan
  else if word = "inf" || word = "infinity" then some (infinity negative)
  else none

def read? (text : String) : Option Float :=
  let (negative, unsigned) := readSign text.toList
  readDecimal? negative unsigned <|> readWord? negative unsigned

end Scriptlet.Number
