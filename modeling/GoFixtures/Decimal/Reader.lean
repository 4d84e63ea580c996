import GoFixtures.Decimal.Double
import GoFixtures.Text.Integer

/-!
# Reading decimal fractions

* `Double.ofChars?` reads a number: digits with a point anywhere among them, and an exponent; or a word for
  infinity or for what is no number. White space may stand at the ends, and digits of every script count.
-/

namespace GoFixtures.Double

open Text

/-- The exponent that is all the rest of a number. -/
def exponentOf? : List Char → Option Int
  | [] => some 0
  | mark :: cs =>
    let ds := match cs with
      | '-' :: ds | '+' :: ds => ds
      | ds => ds
    if mark.toLower ≠ 'e' || ds.isEmpty || !ds.all Char.isDigit then none
    else if cs.head? = some '-' then some (-(digitsValue ds : Int))
    else some (digitsValue ds)

/-- The number without a sign that a text stands for, with the given sign. -/
def unsignedOf? (negative : Bool) (cs : List Char) : Option Double :=
  let word := String.ofList (cs.map Char.toLower)
  if word = "inf" || word = "infinity" then some (infinite negative)
  else if word = "nan" then some notANumber
  else
    let whole := cs.takeWhile Char.isDigit
    let (places, rest) :=
      match cs.drop whole.length with
      | '.' :: rest => (rest.takeWhile Char.isDigit, rest.dropWhile Char.isDigit)
      | rest => ([], rest)
    if whole.isEmpty && places.isEmpty then none
    else (exponentOf? rest).map fun e => ofDecimal negative (digitsValue (whole ++ places)) (e - places.length)

/-- The number that a text stands for. -/
def ofChars? (cs : List Char) : Option Double :=
  match trim isNumberSpace (cs.map numberForm) with
  | '-' :: ds => unsignedOf? true ds
  | '+' :: ds => unsignedOf? false ds
  | ds => unsignedOf? false ds

end GoFixtures.Double
