import GoFixtures.Decimal.Double

/-!
# Shortest decimal texts

The decimal text of a double has the fewest digits that read back as the same number, and among those
the digits nearest to it.

* `Double.shortest?` finds the digits: it tries one place, two places, … and on each grid the two
  neighbours of the number.
* `Double.text` writes them, positionally where the point is near them.
-/

namespace GoFixtures.Double

/-- A decimal fraction `digits * 10 ^ exponent`. -/
structure Digits where
  digits : Nat
  exponent : Int
deriving DecidableEq

/-- The fraction of `m * 2 ^ e`. -/
def fraction (m : Nat) (e : Int) : Nat × Nat :=
  if 0 ≤ e then (m * Nat.pow 2 e.toNat, 1) else (m, Nat.pow 2 (-e).toNat)

/-- The interval of the numbers that round to `m * 2 ^ e`, in quarters of `2 ^ e`: the distance of the
lower and of the upper end. Below a power of two the grid is finer. -/
def quarters (m : Nat) (e : Int) : Nat × Nat :=
  (if m = Nat.pow 2 52 && minExponent < e then 1 else 2, 2)

/-- Whether `d * 10 ^ k` rounds to `m * 2 ^ e`; an end of the interval does if `m` is even. -/
def readsBack (m : Nat) (e : Int) (d : Nat) (k : Int) : Bool :=
  let (num, den) := fraction (4 * m) (e - 2)
  let (unit, unitDen) := fraction 1 (e - 2)
  let (below, above) := quarters m e
  -- everything over the common denominator `den * unitDen * ten`
  let (dn, ten) := if 0 ≤ k then (d * Nat.pow 10 k.toNat, 1) else (d, Nat.pow 10 (-k).toNat)
  let x := dn * den * unitDen
  let v := num * unitDen * ten
  let low := v - below * unit * den * ten
  let high := v + above * unit * den * ten
  if m % 2 = 0 then low ≤ x && x ≤ high else low < x && x < high

/-- The power of ten just above a positive fraction: `10 ^ (k - 1) ≤ num / den < 10 ^ k`. -/
def tenAbove (num den : Nat) : Int :=
  let whole := num / den
  if 0 < whole then (Nat.toDigits 10 whole).length
  else
    -- the number of zeros behind the point, found on the inverse
    let inverse := den / num
    let zeros : Int := (Nat.toDigits 10 inverse).length
    if num * Nat.pow 10 (zeros.toNat - 1) = den then 2 - zeros else 1 - zeros

/-- The nearest decimal with `places` digits that reads back as `m * 2 ^ e`, if there is one. -/
def onGrid? (m : Nat) (e : Int) (places : Nat) : Option Digits :=
  let (num, den) := fraction m e
  let k : Int := tenAbove num den - places
  let (n, d) := if 0 ≤ k then (num, den * Nat.pow 10 k.toNat) else (num * Nat.pow 10 (-k).toNat, den)
  let low := n / d
  let nearLow := if 2 * (n % d) = d then low % 2 = 0 else 2 * (n % d) < d
  let lowFits := 0 < low && readsBack m e low k
  let highFits := readsBack m e (low + 1) k
  if lowFits && (nearLow || !highFits) then some ⟨low, k⟩
  else if highFits then some ⟨low + 1, k⟩
  else none

/-- The first grid from `places` on, of at most `more` grids, with a decimal that reads back. -/
def shortestFrom (m : Nat) (e : Int) : Nat → Nat → Option Digits
  | _, 0 => none
  | places, more + 1 =>
    match onGrid? m e places with
    | some d => some d
    | none => shortestFrom m e (places + 1) more

/-- The shortest decimal that reads back as `m * 2 ^ e`. Seventeen digits always do. -/
def shortest? (m : Nat) (e : Int) : Option Digits := shortestFrom m e 1 17

/-- The digits of a decimal, without zeros at the end, and the place of the point before them. -/
def Digits.split (d : Digits) : List Char × Int :=
  let cs := Nat.toDigits 10 d.digits
  let kept := (cs.reverse.dropWhile (· = '0')).reverse
  (kept, (cs.length : Int) + d.exponent)

/-- The exponent with its sign and at least two digits. -/
def exponentText (e : Int) : List Char :=
  let cs := Nat.toDigits 10 e.natAbs
  'e' :: (if e < 0 then '-' else '+') :: (if cs.length < 2 then '0' :: cs else cs)

/-- Digits with the point at place `point`, positionally for the places from -3 to 16, with an
exponent elsewhere. A positional text has a digit on both sides of the point. -/
def digitsText (cs : List Char) (point : Int) : List Char :=
  if -4 < point && point ≤ 16 then
    if point ≤ 0 then
      '0' :: '.' :: (List.replicate (-point).toNat '0' ++ cs)
    else
      let whole := cs.take point.toNat
      let part := cs.drop point.toNat
      whole ++ List.replicate (point.toNat - cs.length) '0' ++ '.' :: (if part.isEmpty then ['0'] else part)
  else
    match cs with
    | [] => []
    | [c] => c :: exponentText (point - 1)
    | c :: more => c :: '.' :: (more ++ exponentText (point - 1))

/-- The number in decimal. -/
def text : Double → String
  | notANumber => "nan"
  | infinite negative => if negative then "-inf" else "inf"
  | finite negative m e =>
    let sign := if negative then ['-'] else []
    match if m = 0 then none else shortest? m e with
    | none => String.ofList (sign ++ ['0', '.', '0'])
    | some d => String.ofList (sign ++ digitsText d.split.1 d.split.2)

end GoFixtures.Double
