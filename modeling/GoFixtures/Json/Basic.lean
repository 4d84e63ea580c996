import GoFixtures.Catalogue
import GoFixtures.Decimal.Double
import GoFixtures.Text.Surrogate

/-!
# JSON values

A JSON document as a value. The members of an object are entries in the order of the document, each name once.
Numbers written without point and exponent are whole numbers of any size, the others doubles.

An escape can name a surrogate that belongs to no pair. A string with one is no text and is kept by its code
points, and so are the names of an object if there is such a name among them.
-/

namespace GoFixtures

/-- A JSON value. -/
inductive Json
  | null
  | bool (value : Bool)
  | integer (value : Int)
  | double (value : Double)
  | string (value : String)
  | brokenString (codes : List Nat)
  | array (items : List Json)
  | object (members : List (String × Json))
  | brokenObject (members : List (List Nat × Json))

namespace Json

instance : Inhabited Json := ⟨null⟩

/-- The string of code points. -/
def ofCodes (codes : List Nat) : Json :=
  match Text.stringOfCodes? codes with
  | some s => string s
  | none => brokenString codes

/-- The members with texts for names, if all the names are texts. -/
def textMembers? : List (List Nat × Json) → Option (List (String × Json))
  | [] => some []
  | (codes, j) :: ms =>
    match Text.stringOfCodes? codes, textMembers? ms with
    | some name, some more => some ((name, j) :: more)
    | _, _ => none

/-- The object of members with the code points of their names. -/
def ofMembers (ms : List (List Nat × Json)) : Json :=
  match textMembers? ms with
  | some named => object named
  | none => brokenObject ms

/-- The value of a member of an object; nothing else has members. -/
def member? (name : String) : Json → Option Json
  | object members => Entries.get? members name
  | brokenObject members => (members.find? fun m => m.1 = Text.codesOf name).map Prod.snd
  | _ => none

/-- Whether a value is an object. -/
def isObject : Json → Bool
  | object _ => true
  | brokenObject _ => true
  | _ => false

/-- Texts make up the strings they are. -/
theorem ofCodes_codesOf (s : String) : ofCodes (Text.codesOf s) = string s := by
  rw [ofCodes, Text.stringOfCodes?_codesOf]

/-- Members with texts for names make up the object with these members. -/
theorem ofMembers_map_codesOf (ms : Entries Json) :
    ofMembers (ms.map fun m => (Text.codesOf m.1, m.2)) = object ms := by
  have hnamed : textMembers? (ms.map fun m => (Text.codesOf m.1, m.2)) = some ms := by
    induction ms with
    | nil => rfl
    | cons m ms ih => rw [List.map_cons, textMembers?, Text.stringOfCodes?_codesOf, ih]
  rw [ofMembers, hnamed]

end Json

end GoFixtures
