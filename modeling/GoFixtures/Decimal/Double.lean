/-!
# Double precision numbers

A number of 64 bits is a sign, a whole mantissa below `2 ^ 53` and a power of two. `Double.ofDecimal`
is the one nearest to a decimal fraction; of two equally near ones, the one with the even mantissa.
-/

namespace GoFixtures

/-- A binary floating point number of 64 bits. A finite one is `± mantissa * 2 ^ exponent`. -/
inductive Double
  | notANumber
  | infinite (negative : Bool)
  | finite (negative : Bool) (mantissa : Nat) (exponent : Int)
deriving DecidableEq

namespace Double

/-- The least exponent: there mantissas may have fewer than 53 digits. -/
def minExponent : Int := -1074

/-- The greatest exponent. -/
def maxExponent : Int := 971

/-- The quotient rounded to the nearest whole number, a half to the even one. -/
def roundDiv (num den : Nat) : Nat :=
  let q := num / den
  let r := num % den
  if 2 * r < den then q else if den < 2 * r then q + 1 else q + q % 2

/-- `num / den * 2 ^ -shift` as a fraction. -/
def scaled (num den : Nat) (shift : Int) : Nat × Nat :=
  if 0 ≤ shift then (num, den * Nat.pow 2 shift.toNat) else (num * Nat.pow 2 (-shift).toNat, den)

/-- The number nearest to a positive fraction. -/
def ofFraction (negative : Bool) (num den : Nat) : Double :=
  -- the fraction is between `2 ^ (bits - 1)` and `2 ^ (bits + 1)`
  let bits : Int := (num.log2 : Int) - (den.log2 : Int)
  let low := max (bits - 53) minExponent
  let (n, d) := scaled num den low
  let exponent := if n / d < Nat.pow 2 53 then low else low + 1
  let (n, d) := scaled num den exponent
  let mantissa := roundDiv n d
  let (mantissa, exponent) :=
    if mantissa = Nat.pow 2 53 then (Nat.pow 2 52, exponent + 1) else (mantissa, exponent)
  if maxExponent < exponent then infinite negative else finite negative mantissa exponent

/-- The number nearest to `± digits * 10 ^ exponent`. -/
def ofDecimal (negative : Bool) (digits : Nat) (exponent : Int) : Double :=
  let size : Int := (Nat.toDigits 10 digits).length + exponent
  if digits = 0 || size < -330 then finite negative 0 minExponent
  else if 310 < size then infinite negative
  else if 0 ≤ exponent then ofFraction negative (digits * Nat.pow 10 exponent.toNat) 1
  else ofFraction negative digits (Nat.pow 10 (-exponent).toNat)

/-- The value of a number that is whole. -/
def wholeValue? : Double → Option Int
  | finite negative m e =>
    let unit := Nat.pow 2 (-e).toNat
    if 0 ≤ e || m % unit = 0 then
      let n : Int := if 0 ≤ e then m * Nat.pow 2 e.toNat else m / unit
      some (if negative then -n else n)
    else none
  | _ => none

end Double

end GoFixtures
