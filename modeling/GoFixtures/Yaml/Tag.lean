import GoFixtures.Text.Surrogate
import GoFixtures.Yaml.Timestamp

/-!
# Tags

The tag of a node tells what kind of value it has. A scalar without quotes and without a tag has the tag of a
constant, a number or a date if it is written like one, and else that of a string. Numbers may be grouped with
underscores; whole ones may be binary, octal, hexadecimal, or in base sixty with colons between the digits.

* `Tag.ofName` reads the full name of a tag, `Tag.ofPlain` finds the tag of a scalar.
-/

namespace GoFixtures.Yaml

/-- What kind of value a node has. -/
inductive Tag
  | null
  | boolean
  | integer
  | double
  | binary
  | timestamp
  | orderedMap
  | pairs
  | set
  | string
  | sequence
  | mapping
  | merge
  | default
  | other
deriving DecidableEq

/-- What the names of the standard tags begin with. -/
def standardStart : String := "tag:yaml.org,2002:"

/-- The names of the standard tags, without their beginning. -/
def standardTags : List (String × Tag) :=
  [("null", .null), ("bool", .boolean), ("int", .integer), ("float", .double), ("binary", .binary),
    ("timestamp", .timestamp), ("omap", .orderedMap), ("pairs", .pairs), ("set", .set), ("str", .string),
    ("seq", .sequence), ("map", .mapping), ("merge", .merge), ("value", .default)]

/-- The characters of a scalar. Nothing that is written with a surrogate has a meaning, so one is as good as
the replacement character. -/
def charsOf (codes : List Nat) : List Char :=
  codes.map fun n => if Text.isScalar n then Char.ofNat n else '\ufffd'

/-- A text without its sign. -/
def unsigned : List Char → List Char
  | '-' :: cs => cs
  | '+' :: cs => cs
  | cs => cs

/-! ### How numbers are written -/

/-- Digits in groups. -/
def isGrouped (cs : List Char) : Bool := cs.all fun c => c.isDigit || c = '_'

/-- A digit, and more of them in groups. -/
def isNumeral : List Char → Bool
  | [] => false
  | c :: cs => c.isDigit && isGrouped cs

/-- One digit in base sixty. -/
def isSixtieth : List Char → Bool
  | [b] => b.isDigit
  | [a, b] => '0' ≤ a && a ≤ '5' && b.isDigit
  | _ => false

/-- Digits of a base behind its letter, in groups. -/
def isBased ( isDigit : Char → Bool) (cs : List Char) : Bool :=
  !cs.isEmpty && cs.all fun c => isDigit c || c = '_'

/-- Whether a text without a sign is written like a whole number. -/
def isNatural (cs : List Char) : Bool :=
  match cs with
  | '0' :: 'b' :: ds => isBased (fun c => c = '0' || c = '1') ds
  | '0' :: 'x' :: ds => isBased (fun c => (Text.hexValue? c).isSome) ds
  | '0' :: ds => ds.all fun c => ('0' ≤ c && c ≤ '7') || c = '_'
  | _ =>
    match Text.split ':' cs with
    | ds :: parts => isNumeral ds && parts.all isSixtieth
    | [] => false

/-- Whether a text is written like a whole number. -/
def isInteger (cs : List Char) : Bool := isNatural (unsigned cs)

/-- Whether a text is an exponent, which has a sign of its own, or nothing. -/
def isExponent : List Char → Bool
  | [] => true
  | e :: sign :: ds =>
    (e = 'e' || e = 'E') && (sign = '-' || sign = '+') && !ds.isEmpty && ds.all Char.isDigit
  | _ => false

/-- Whether a text is written like what follows the point of a number. -/
def isFraction (cs : List Char) : Bool := isExponent (cs.dropWhile fun c => c.isDigit || c = '_')

/-- Whether a text is written like a number with a point. -/
def isDouble (cs : List Char) : Bool :=
  let body := unsigned cs
  let before := body.takeWhile (· ≠ '.')
  if String.ofList body ∈ [".inf", ".Inf", ".INF"] || String.ofList cs ∈ [".nan", ".NaN", ".NAN"] then true
  else
    match body.drop before.length with
    | [] => false
    | _ :: behind =>
      if before.isEmpty then body.length = cs.length && behind.head?.any Char.isDigit && isFraction behind
      else
        match Text.split ':' before with
        | [ds] => isNumeral ds && isFraction behind
        | ds :: parts => isNumeral ds && parts.all isSixtieth && isGrouped behind
        | [] => false

/-! ### Constants -/

/-- The words for true and false. -/
def booleanWords : List String :=
  ["yes", "Yes", "YES", "no", "No", "NO", "true", "True", "TRUE", "false", "False", "FALSE",
    "on", "On", "ON", "off", "Off", "OFF"]

/-- The words for no value. -/
def nullWords : List String := ["", "~", "null", "Null", "NULL"]

/-- The indicators that mean nothing as scalars of their own. -/
def indicators : List String := ["!", "&", "*"]

/-- A text without the line break at its end. A break alone is kept. -/
def withoutLastBreak (cs : List Char) : List Char :=
  if cs ≠ ['\n'] && cs.getLast? = some '\n' then cs.dropLast else cs

namespace Tag

/-- The tag with a name. -/
def ofName (name : String) : Tag :=
  match standardTags.find? fun t => standardStart ++ t.1 = name with
  | some (_, tag) => tag
  | none => other

/-- The tag of a scalar that is known by its text. A line break at the end of the text does not count. -/
def ofPlain (codes : List Nat) : Tag :=
  let cs := withoutLastBreak (charsOf codes)
  let word := String.ofList cs
  if word ∈ booleanWords then boolean
  else if isDouble cs then double
  else if isInteger cs then integer
  else if word = "<<" then merge
  else if word ∈ nullWords then null
  else if isTimestamp cs then timestamp
  else if word = "=" then default
  else if word ∈ indicators then other
  else string

end Tag

end GoFixtures.Yaml
