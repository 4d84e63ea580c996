/-!
# Validation

Data from outside is checked as a whole: every fault is reported with the place where it was found. A place is
a path of member names and item numbers from the outside in.

* `Checked.both` and `Checked.all` go on behind a fault and keep the order of the faults.
-/

namespace GoFixtures

/-- A step into a value: the name of a member, or a number, which is the place of an item or a key that is no
name. -/
inductive PathStep
  | key (name : String)
  | index (n : Int)
deriving DecidableEq

/-- What is wrong with a value. -/
inductive Cause
  | missing
  | notString
  | notText
  | notList
  | notDictionary
  | notModel (name : String)
  | notObject
  | noTag
  | unknownTag (shown : String)
  | notLiteral (expected : String)
  | unexpected
  | notBoolean
  | unclearBoolean
  | notStringKey
deriving DecidableEq

namespace Cause

/-- A short name of the fault. -/
def code : Cause → String
  | missing => "missing"
  | notString => "string_type"
  | notText => "string_unicode"
  | notList => "list_type"
  | notDictionary => "dict_type"
  | notModel _ => "model_type"
  | notObject => "model_attributes_type"
  | noTag => "union_tag_not_found"
  | unknownTag _ => "union_tag_invalid"
  | notLiteral _ => "literal_error"
  | unexpected => "extra_forbidden"
  | notBoolean => "bool_type"
  | unclearBoolean => "bool_parsing"
  | notStringKey => "invalid_key"

/-- The fault in words. -/
def message : Cause → String
  | missing => "Field required"
  | notString => "Input should be a valid string"
  | notText => "Input should be a valid string, unable to parse raw data as a unicode string"
  | notList => "Input should be a valid list"
  | notDictionary => "Input should be a valid dictionary"
  | notModel name => "Input should be a valid dictionary or instance of " ++ name
  | notObject => "Input should be a valid dictionary or object to extract fields from"
  | noTag => "Unable to extract tag using discriminator 'kind'"
  | unknownTag shown =>
    "Input tag '" ++ shown ++ "' found using 'kind' does not match any of the expected tags: "
      ++ "'primitive', 'record', 'enumeration', 'alias', 'sum_type', 'pointer', 'sequence', 'external', "
      ++ "'unresolved'"
  | notLiteral expected => "Input should be '" ++ expected ++ "'"
  | unexpected => "Extra inputs are not permitted"
  | notBoolean => "Input should be a valid boolean"
  | unclearBoolean => "Input should be a valid boolean, unable to interpret input"
  | notStringKey => "Keys should be strings"

end Cause

/-- A fault and its place. -/
structure Issue where
  path : List PathStep
  cause : Cause
deriving DecidableEq

/-- A value that has been checked, or everything that is wrong with it. -/
abbrev Checked (α : Type) := Except (List Issue) α

namespace Checked

variable {α β : Type}

/-- A fault right here. -/
def fault (cause : Cause) : Checked α := .error [⟨[], cause⟩]

/-- Puts a step before the places of the faults. -/
def under (step : PathStep) : Checked α → Checked α
  | .ok a => .ok a
  | .error issues => .error (issues.map fun i => { i with path := step :: i.path })

/-- Two values, or the faults of both. -/
def both : Checked α → Checked β → Checked (α × β)
  | .ok a, .ok b => .ok (a, b)
  | .ok _, .error e => .error e
  | .error e, .ok _ => .error e
  | .error e, .error e' => .error (e ++ e')

/-- All values, or the faults of all. -/
def all : List (Checked α) → Checked (List α)
  | [] => .ok []
  | c :: cs => (both c (all cs)).map fun (a, more) => a :: more

end Checked

/-- The faults of a value, and what the value was to be. -/
structure Rejection where
  subject : String
  issues : List Issue
deriving DecidableEq

namespace Rejection

/-- How many faults there are. -/
def heading (r : Rejection) : String :=
  toString r.issues.length ++ (if r.issues.length = 1 then " validation error for "
    else " validation errors for ")
    ++ r.subject

end Rejection

end GoFixtures
