import GoFixtures.Library.DataClass
import GoFixtures.Text.Integer
import GoFixtures.Text.Utf8
import GoFixtures.Validation
import GoFixtures.Yaml.Shown

/-!
# Checking data

A value is checked against a shape, and every fault is reported with its place. Keys that a class does not
declare are passed over, unless the class is closed; an attribute can be written with its key or with its
name.

* `Checker.check` makes a datum of a value, or reports what is wrong.
* `Datum.toJson` writes a datum.
-/

namespace GoFixtures

namespace Checker

open Yaml (Scalar Members)

/-! ### Scalars -/

/-- A string. Bytes are as good if they are text. -/
def text : Yaml.Value → Checked Datum
  | .scalar (.text codes) => .ok (.text codes)
  | .scalar (.bytes bytes) =>
    match Text.Utf8.decode bytes with
    | .ok s => .ok (.ofString s)
    | .error _ => Checked.fault .notText
  | _ => Checked.fault .notString

/-- The given word. -/
def literal (word : String) : Yaml.Value → Checked Datum
  | .scalar (.text codes) =>
    match Text.stringOfCodes? codes with
    | some s => if s = word then .ok (.ofString word) else Checked.fault (.notLiteral word)
    | none => Checked.fault .notText
  | _ => Checked.fault (.notLiteral word)

/-- The words that a switch takes; capital letters are as good. -/
def switchOf? (s : String) : Option Bool :=
  let word := s.toLower
  if word ∈ ["0", "off", "f", "false", "n", "no"] then some false
  else if word ∈ ["1", "on", "t", "true", "y", "yes"] then some true
  else none

/-- The least whole number of 64 bits. -/
def leastWord : Int := -0x8000000000000000

/-- Whether a whole number fits into 64 bits. -/
def isWord (n : Int) : Bool := leastWord ≤ n && n < -leastWord

/-- A switch from a whole number. -/
def switchOfNumber (n : Int) : Checked Bool :=
  if n = 0 then .ok false
  else if n = 1 then .ok true
  else if isWord n then Checked.fault .unclearBoolean
  else Checked.fault .notBoolean

/-- A switch from a word. -/
def switchOfWord (s : String) : Checked Bool :=
  match switchOf? s with
  | some b => .ok b
  | none => Checked.fault .unclearBoolean

/-- A switch: a boolean, a word for one, or one of the numbers zero and one. -/
def switch : Yaml.Value → Checked Bool
  | .scalar (.bool b) => .ok b
  | .scalar (.text codes) =>
    match Text.stringOfCodes? codes with
    | some s => switchOfWord s
    | none => Checked.fault .notText
  | .scalar (.bytes bytes) =>
    match Text.Utf8.decode bytes with
    | .ok s => switchOfWord s
    | .error _ => Checked.fault .unclearBoolean
  | .scalar (.integer n) => switchOfNumber n
  | .scalar (.double x) =>
    match x.wholeValue? with
    | some n => if n = leastWord then Checked.fault .notBoolean else switchOfNumber n
    | none => Checked.fault .notBoolean
  | _ => Checked.fault .notBoolean

/-! ### Keys -/

/-- The value of a key. -/
def get? (entries : Members) (key : String) : Option Yaml.Value :=
  (entries.find? fun e => e.1 = .ofString key).map Prod.snd

/-- A member that can be written in two ways: the way in which it is written, and its value. -/
def find? (entries : Members) (key name : String) : Option (String × Yaml.Value) :=
  match get? entries key with
  | some v => some (key, v)
  | none => (get? entries name).map fun v => (name, v)

/-- A whole number as a place shows it, unless it has too many digits. -/
def shownInteger (n : Int) : String :=
  if (Nat.toDigits 10 n.natAbs).length ≤ Text.maxIntegerDigits then toString n else "<unprintable int object>"

/-- The place of a key. -/
def keyStep : Scalar → PathStep
  | .bool b => .index (if b then 1 else 0)
  | .integer n => if isWord n then .index n else .key (shownInteger n)
  | .text codes => .key (Text.Surrogate.replace codes)
  | key => .key key.shown

/-- The fault of a key that does not belong to any of the attributes. -/
def strayKey (entries : Members) (attributes : List Attribute) (key : Scalar) : Option Issue :=
  match key with
  | .text _ =>
    if attributes.any fun a => (find? entries a.key a.name).any fun found => .ofString found.1 = key then none
    else some ⟨[keyStep key], .unexpected⟩
  | key => some ⟨[keyStep key], .notStringKey⟩

/-- Refuses the keys that a closed class does not declare. -/
def noOthers (c : DataClass) (entries : Members) : Checked Unit :=
  match if c.isClosed then entries.filterMap fun e => strayKey entries c.attributes e.1 else [] with
  | [] => .ok ()
  | issues => .error issues

/-- Whether a key is a string that is no text. -/
def isBrokenKey : Scalar → Bool
  | .text codes => (Text.stringOfCodes? codes).isNone
  | _ => false

/-- The key of a dictionary. -/
def textKey : Scalar → Checked (List Nat)
  | .text codes => .ok codes
  | _ => Checked.under (.key "[key]") (Checked.fault .notString)

theorem sizeOf_get?_lt {entries : Members} {key : String} {v : Yaml.Value} (h : get? entries key = some v) :
    sizeOf v < sizeOf entries := by
  obtain ⟨⟨k, v⟩, he, rfl⟩ := Option.map_eq_some_iff.1 h
  have hmem := List.sizeOf_lt_of_mem (List.mem_of_find?_eq_some he)
  simp only [Prod.mk.sizeOf_spec] at hmem ⊢
  omega

theorem sizeOf_find?_lt {entries : Members} {key name : String} {found : String × Yaml.Value}
    (h : find? entries key name = some found) :
    sizeOf found.2 < sizeOf entries := by
  unfold find? at h
  split at h
  · rename_i v hv
    obtain rfl := Option.some.inj h
    exact sizeOf_get?_lt hv
  · obtain ⟨v, hv, rfl⟩ := Option.map_eq_some_iff.1 h
    exact sizeOf_get?_lt hv

end Checker

namespace Shape

/-- How often a shape looks at the same value again. -/
def rank : Shape → Nat
  | nullable shape => shape.rank + 1
  | tagged _ => 1
  | _ => 0

/-- What a value of the shape is called. -/
def title : Shape → String
  | object c => c.title
  | _ => "value"

end Shape

namespace Checker

open Yaml (Scalar Members)

/-- Checks a value against a shape. -/
def check : Shape → Yaml.Value → Checked Datum
  | .text, v => text v
  | .truth, v => (switch v).map .truth
  | .nullable _, .scalar .null => .ok .nothing
  | .nullable shape, v => check shape v
  | .literal word, v => literal word v
  | .list shape, .sequence items =>
    (Checked.all (items.attach.mapIdx fun i v => Checked.under (.index i) (check shape v.1))).map .list
  | .list _, _ => Checked.fault .notList
  | .dictionary shape, .mapping entries =>
    (Checked.all (entries.attach.map fun e =>
      Checked.under (keyStep e.1.1) (Checked.both (textKey e.1.1) (check shape e.1.2)))).map .dictionary
  | .dictionary _, _ => Checked.fault .notDictionary
  | .object c, .mapping entries =>
    if c.isClosed && entries.any fun e => isBrokenKey e.1 then Checked.fault .notText
    else
      (Checked.both (Checked.all (c.attributes.map fun a =>
        match h : find? entries a.key a.name with
        | some found =>
          have := sizeOf_find?_lt h
          Checked.under (.key found.1) (check a.shape found.2)
        | none =>
          match a.default with
          | some d => .ok d
          | none => Checked.under (.key a.key) (Checked.fault .missing)))
        (noOthers c entries)).map fun checked => .object c checked.1
  | .object c, _ => Checked.fault (.notModel c.title)
  | .tagged classes, .mapping entries =>
    match get? entries "kind" with
    | none => Checked.fault .noTag
    | some v =>
      match classes.find? fun c => c.tag?.any fun word => decide (v.text? = some word) with
      | some c => Checked.under (.key (c.tag?.getD "")) (check (.object c) (.mapping entries))
      | none => Checked.fault (.unknownTag v.bareShown)
  | .tagged _, _ => Checked.fault .notObject
termination_by shape v => (sizeOf v, shape.rank)
decreasing_by
  · exact .right _ (Nat.lt_succ_self _)
  · have := List.sizeOf_lt_of_mem v.2
    exact .left _ _ (by simp only [Yaml.Value.sequence.sizeOf_spec]; omega)
  · have := List.sizeOf_lt_of_mem e.2
    obtain ⟨⟨k, v⟩, h⟩ := e
    exact .left _ _ (by simp only [Yaml.Value.mapping.sizeOf_spec, Prod.mk.sizeOf_spec] at this ⊢; omega)
  · exact .left _ _ (by simp only [Yaml.Value.mapping.sizeOf_spec]; omega)
  · exact .right _ Nat.zero_lt_one

/-- What may be missing is checked as what has to be there, if it is there. -/
theorem check_nullable (shape : Shape) {v : Yaml.Value} (h : v ≠ .scalar .null) :
    check (.nullable shape) v = check shape v := by
  rw [check]
  exact h

end Checker

namespace Datum

mutual

/-- A datum as JSON, its parts in their order. -/
def toJson : Datum → Json
  | nothing => .null
  | truth b => .bool b
  | text codes => .ofCodes codes
  | list items => .array (dataToJson items)
  | dictionary entries => .ofMembers (entriesToJson entries)
  | object c values => .object ((c.attributes.map Attribute.name).zip (dataToJson values))

/-- Data as JSON. -/
def dataToJson : List Datum → List Json
  | [] => []
  | d :: ds => d.toJson :: dataToJson ds

/-- The entries of a dictionary as JSON. -/
def entriesToJson : List (List Nat × Datum) → List (List Nat × Json)
  | [] => []
  | (codes, d) :: es => (codes, d.toJson) :: entriesToJson es

end

theorem dataToJson_eq_map (items : List Datum) : dataToJson items = items.map toJson := by
  induction items with
  | nil => rfl
  | cons d ds ih => rw [dataToJson, ih, List.map_cons]

theorem entriesToJson_eq_map (entries : List (List Nat × Datum)) :
    entriesToJson entries = entries.map fun e => (e.1, e.2.toJson) := by
  induction entries with
  | nil => rfl
  | cons e es ih => rw [entriesToJson, ih, List.map_cons]

end Datum

end GoFixtures
