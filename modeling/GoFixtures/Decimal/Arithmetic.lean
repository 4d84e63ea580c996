import GoFixtures.Decimal.Double

/-!
# Sums and products of doubles

The result is the double nearest to the exact one. A sum of nothing is positive unless both parts are negative
zeros, and what has no value is `notANumber`.
-/

namespace GoFixtures.Double

/-- The number nearest to `± mantissa * 2 ^ exponent`. -/
def ofBinary (negative : Bool) (mantissa : Nat) (exponent : Int) : Double :=
  if mantissa = 0 then finite negative 0 minExponent
  else if 0 ≤ exponent then ofFraction negative (mantissa * Nat.pow 2 exponent.toNat) 1
  else ofFraction negative mantissa (Nat.pow 2 (-exponent).toNat)

/-- The number nearest to a whole number, if there is a finite one. -/
def ofNat? (n : Nat) : Option Double :=
  match ofBinary false n 0 with
  | finite negative m e => some (finite negative m e)
  | _ => none

/-- The number with the other sign. -/
def neg : Double → Double
  | notANumber => notANumber
  | infinite negative => infinite !negative
  | finite negative m e => finite (!negative) m e

/-- A mantissa with its sign. -/
def signed (negative : Bool) (n : Nat) : Int := if negative then -(n : Int) else n

/-- The sum of two numbers. -/
def add : Double → Double → Double
  | notANumber, _ => notANumber
  | _, notANumber => notANumber
  | infinite a, infinite b => if a = b then infinite a else notANumber
  | infinite a, finite _ _ _ => infinite a
  | finite _ _ _, infinite b => infinite b
  | finite a m e, finite b n f =>
    let low := min e f
    let sum := signed a (m * Nat.pow 2 (e - low).toNat) + signed b (n * Nat.pow 2 (f - low).toNat)
    ofBinary (if sum = 0 then a && b else decide (sum < 0)) sum.natAbs low

/-- The product of two numbers. -/
def mul : Double → Double → Double
  | notANumber, _ => notANumber
  | _, notANumber => notANumber
  | infinite a, infinite b => infinite (a != b)
  | infinite a, finite b n _ => if n = 0 then notANumber else infinite (a != b)
  | finite a m _, infinite b => if m = 0 then notANumber else infinite (a != b)
  | finite a m e, finite b n f => ofBinary (a != b) (m * n) (e + f)

end GoFixtures.Double
