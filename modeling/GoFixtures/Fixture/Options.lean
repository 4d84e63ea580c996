/-!
# Options of generated code

How types and fixture functions are named, and in which of two styles the functions are written.
-/

namespace GoFixtures

/-- The style of fixture functions: a mutable one takes functions that change the value and returns a pointer,
a plain one returns the value. -/
inductive Style
  | mutable | plain
deriving DecidableEq, Inhabited

/-- Names and style. The qualifier stands before type names, the insertion between `Fixture` and the name of a
type. -/
structure Options where
  qualifier : String := ""
  insertion : String := ""
  style : Style := .mutable
deriving DecidableEq, Inhabited

namespace Options

/-- A type name as it is written in generated code. -/
def qualify (o : Options) (name : String) : String :=
  if o.qualifier.isEmpty then name else o.qualifier ++ "." ++ name

/-- The name of the fixture function of a type. -/
def fixtureName (o : Options) (type : String) : String := "Fixture" ++ o.insertion ++ type

end Options

end GoFixtures
