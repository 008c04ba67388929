/-! Decimal digits and the range of numbers. -/

namespace CaseSynthesis.Text

def digitsValue (digits : List Char) : Nat :=
  digits.foldl (fun value c => value * 10 + (c.toNat - '0'.toNat)) 0

/-- Whether a decimal number lies in the range of double precision: rounded to the nearest one, it
is not infinite. Its whole part, fraction and exponent are given by their digits, and the exponent
also by its sign. -/
def isFinite (whole fraction : List Char) (negative : Bool) (exponent : List Char) : Bool :=
  let significand := digitsValue (whole ++ fraction)
  let power := digitsValue exponent
  let limit := Nat.pow 2 1024 - Nat.pow 2 970
  if significand == 0 then true
  else if negative then
    let shift := fraction.length + power
    shift ≥ whole.length || significand < limit * Nat.pow 10 shift
  else if power > 400 + fraction.length then false
  else significand * Nat.pow 10 power < limit * Nat.pow 10 fraction.length

end CaseSynthesis.Text
