import GoFixtures.Json.Basic
import GoFixtures.Yaml.Object

/-!
# Values of documents

What a document says, as a tree. A pair is a sequence of two, and a set the sequence of its members. A
document can be a part of itself; its tree is cut at a depth, where collections are empty.

* `Value.parse` reads a text; without a document there is no value.
-/

namespace GoFixtures.Yaml

/-- A value. The keys of a mapping are scalars, each of them once. -/
inductive Value
  | scalar (value : Scalar)
  | sequence (items : List Value)
  | mapping (entries : List (Scalar × Value))

/-- The members of a mapping. -/
abbrev Members := List (Scalar × Value)

namespace Value

/-- The value of a node, cut at a depth. -/
def ofObjects (objects : Array (Option Object)) : Nat → Nat → Value
  | depth, id =>
    match (objects[id]?).join, depth with
    | none, _ => scalar .null
    | some (.scalar s), _ => scalar s
    | some (.mapping _), 0 => mapping []
    | some _, 0 => sequence []
    | some (.sequence items), depth + 1 => sequence (items.map (ofObjects objects depth))
    | some (.pairs items), depth + 1 =>
      sequence (items.map fun i => sequence [ofObjects objects depth i.1, ofObjects objects depth i.2])
    | some (.mapping entries), depth + 1 =>
      mapping (entries.map fun e => (e.1.scalar, ofObjects objects depth e.2))
    | some (.set members), _ + 1 => sequence (members.map fun k => scalar k.scalar)

/-- The value of a document, cut at a depth. -/
def ofDocument (depth : Nat) (d : Document) : Except Reason Value := do
  return ofObjects (← d.objects) depth d.root

/-- The value of a text, cut at a depth, if there is a document in it. What is wrong with values has no place. -/
def parse (depth : Nat) (text : String) : Except Error (Option Value) := do
  match ← Document.read text with
  | none => return none
  | some d => some <$> (ofDocument depth d).mapError fun reason => ⟨reason, 0, 0⟩

mutual

/-- The value that a JSON value stands for. -/
def ofJson : Json → Value
  | .null => scalar .null
  | .bool b => scalar (.bool b)
  | .integer n => scalar (.integer n)
  | .double x => scalar (.double x)
  | .string s => scalar (.text (Text.codesOf s))
  | .brokenString codes => scalar (.text codes)
  | .array js => sequence (ofItems js)
  | .object ms => mapping (ofMembers ms)
  | .brokenObject ms => mapping (ofBroken ms)

/-- The values of the items of an array. -/
def ofItems : List Json → List Value
  | [] => []
  | j :: js => ofJson j :: ofItems js

/-- The keys and values of an object. -/
def ofMembers : List (String × Json) → Members
  | [] => []
  | (name, j) :: ms => (.ofString name, ofJson j) :: ofMembers ms

/-- The keys and values of an object with broken names. -/
def ofBroken : List (List Nat × Json) → Members
  | [] => []
  | (codes, j) :: ms => (.text codes, ofJson j) :: ofBroken ms

end

/-- The items of an array, one by one. -/
theorem ofItems_eq_map (js : List Json) : ofItems js = js.map ofJson := by
  induction js with
  | nil => rfl
  | cons j js ih => rw [ofItems, ih, List.map_cons]

/-- The members of an object, one by one. -/
theorem ofMembers_eq_map (ms : Entries Json) : ofMembers ms = ms.map fun m => (.ofString m.1, ofJson m.2) := by
  induction ms with
  | nil => rfl
  | cons m ms ih => rw [ofMembers, ih, List.map_cons]

theorem ofJson_array (js : List Json) : ofJson (.array js) = .sequence (js.map ofJson) := by
  rw [ofJson, ofItems_eq_map]

theorem ofJson_object (ms : Entries Json) : ofJson (.object ms) = .mapping (ofMembers ms) := by
  rw [ofJson]

end Value

end GoFixtures.Yaml
