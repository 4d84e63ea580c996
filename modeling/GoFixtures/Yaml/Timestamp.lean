import GoFixtures.Calendar
import GoFixtures.Text.Integer
import GoFixtures.Yaml.Cursor

/-!
# Timestamps

A timestamp is a date, or a date and a time with an optional fraction of a second and an optional zone. The
reader gives the numbers that are written; whether there is such a day and such a time is asked later.

* `Timestamp.ofChars?` reads a text. `isTimestamp` is stricter: a date alone has two digits for its month and
  for its day.
-/

namespace GoFixtures.Yaml

/-- The numbers of a time of the day. The fraction has six digits; the zone is in minutes. -/
structure Clock where
  hour : Nat
  minute : Nat
  second : Nat
  microsecond : Nat
  offset : Option Int
deriving DecidableEq

/-- The numbers of a timestamp. -/
structure Timestamp where
  year : Nat
  month : Nat
  day : Nat
  clock : Option Clock
deriving DecidableEq

namespace Timestamp

/-- At least `least` and at most `most` digits at the beginning of a text, and what follows them. -/
def digits? (least most : Nat) (cs : List Char) : Option (Nat × List Char) :=
  let ds := (cs.take most).takeWhile Char.isDigit
  if ds.length < least then none else some (Text.digitsValue ds, cs.drop ds.length)

/-- What follows a character at the beginning of a text. -/
def behind? (c : Char) : List Char → Option (List Char)
  | x :: cs => if x = c then some cs else none
  | [] => none

/-- The zone that is all of a text: the sign of universal time, or hours and perhaps minutes ahead of it. -/
def zone? : List Char → Option Int
  | ['Z'] => some 0
  | sign :: rest => do
    let (hours, rest) ← digits? 1 2 rest
    let minutes ← if rest.isEmpty then some 0 else do
      let (minutes, rest) ← digits? 2 2 (← behind? ':' rest)
      if rest.isEmpty then some minutes else none
    let offset : Int := (hours * 60 + minutes : Nat)
    if sign = '+' then some offset else if sign = '-' then some (-offset) else none
  | [] => none

/-- The first six digits of a fraction. -/
def microseconds (ds : List Char) : Nat := Text.digitsValue ((ds ++ List.replicate 6 '0').take 6)

/-- The time that is all of a text. -/
def clock? (cs : List Char) : Option Clock := do
  let (hour, cs) ← digits? 1 2 cs
  let (minute, cs) ← digits? 2 2 (← behind? ':' cs)
  let (second, cs) ← digits? 2 2 (← behind? ':' cs)
  let (fraction, rest) := match cs with
    | '.' :: rest => (rest.takeWhile Char.isDigit, rest.dropWhile Char.isDigit)
    | cs => ([], cs)
  let offset ← if rest.isEmpty then some none else (zone? (rest.dropWhile isBlank)).map some
  return ⟨hour, minute, second, microseconds fraction, offset⟩

/-- The time behind a date. -/
def clockBehind? : List Char → Option Clock
  | 'T' :: cs => clock? cs
  | 't' :: cs => clock? cs
  | c :: cs => if isBlank c then clock? (cs.dropWhile isBlank) else none
  | [] => none

/-- The timestamp that is all of a text. -/
def ofChars? (cs : List Char) : Option Timestamp := do
  let (year, cs) ← digits? 4 4 cs
  let (month, cs) ← digits? 1 2 (← behind? '-' cs)
  let (day, cs) ← digits? 1 2 (← behind? '-' cs)
  if cs.isEmpty then return ⟨year, month, day, none⟩
  else return ⟨year, month, day, some (← clockBehind? cs)⟩

end Timestamp

/-- Whether a text without a tag is a timestamp. -/
def isTimestamp (cs : List Char) : Bool :=
  match Timestamp.ofChars? cs with
  | some t => t.clock.isSome || cs.length = 10
  | none => false

end GoFixtures.Yaml
