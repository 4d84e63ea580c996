import GoFixtures.Fixture.Options

/-!
# Placeholder values

A value is first built as a tree that knows nothing of the style, and then written in one.

* `Value.render`: the styles differ in the calls of fixture functions alone, and in the pointer right around
  such a call.
-/

namespace GoFixtures

/-- The value of a field: a literal, a call of the fixture function of a type, a pointer to a value, a
sequence of one value, or a pointer to a member of a sum type with its fields. -/
inductive Value
  | literal (text : String)
  | fixture (type : String)
  | pointer (inner : Value)
  | sequence (elementType : String) (element : Value)
  | member (type : String) (fields : List (String × Value))

namespace Value

/-- The literal of what has no better value. -/
def nothing : Value := literal "nil"

instance : Inhabited Value := ⟨nothing⟩

/-- Whether the value is a call of a fixture function. -/
def isFixture : Value → Bool
  | fixture _ => true
  | _ => false

/-- A call of a fixture function; where it returns a pointer, the value is what that points to. -/
def renderCall (o : Options) (type : String) : String :=
  let call := o.fixtureName type ++ "()"
  match o.style with
  | .mutable => "*" ++ call
  | .plain => call

mutual

/-- The value as it is written. -/
def render (o : Options) : Value → String
  | literal text => text
  | fixture type => renderCall o type
  | pointer inner =>
    if o.style = .mutable && inner.isFixture then render o inner else "ptr(" ++ render o inner ++ ")"
  | sequence elementType element => "[]" ++ elementType ++ "\x7b" ++ render o element ++ "\x7d"
  | member type [] => "&" ++ type ++ "\x7b\x7d"
  | member type fields => "&" ++ type ++ "\x7b" ++ renderFields o fields ++ "\n\t\t\x7d"

/-- The fields of a member, each on a line of its own. -/
def renderFields (o : Options) : List (String × Value) → String
  | [] => ""
  | (name, value) :: fields =>
    "\n\t\t\t" ++ name ++ ": " ++ render o value ++ "," ++ renderFields o fields

end

mutual

/-- The types whose fixture functions the value calls, from left to right. -/
def calls : Value → List String
  | literal _ => []
  | fixture type => [type]
  | pointer inner => calls inner
  | sequence _ element => calls element
  | member _ fields => callsOfFields fields

/-- The types whose fixture functions the fields call. -/
def callsOfFields : List (String × Value) → List String
  | [] => []
  | (_, value) :: fields => calls value ++ callsOfFields fields

end

end Value

end GoFixtures
