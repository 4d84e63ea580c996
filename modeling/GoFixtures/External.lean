import GoFixtures.Catalogue

/-!
# External types

Types that are known by name only. Each comes with the import that it needs, a literal for its value and the
spelling of the type in generated code.
-/

namespace GoFixtures

/-- A type that is known by name. Without a spelling of its own the type is spelled as its name. -/
structure ExternalType where
  importSpec : String
  value : String
  typeExpression : String
deriving DecidableEq

/-- The external types, and the imports that are needed as soon as one of them is used. -/
structure ExternalRegistry where
  types : Catalogue ExternalType
  requiredImports : List String
deriving DecidableEq

namespace ExternalRegistry

/-- The external type with a name. -/
def get? (r : ExternalRegistry) (name : String) : Option ExternalType := r.types.get? name

/-- Whether a name is that of an external type. -/
def contains (r : ExternalRegistry) (name : String) : Bool := r.types.contains name

/-- Adds types; they take the place of those with the same names. -/
def withTypes (r : ExternalRegistry) (extra : Entries ExternalType) : ExternalRegistry :=
  { r with types := r.types.putAll extra }

/-- The time stamps of the standard library and of protocol buffers. -/
def standard : ExternalRegistry where
  types := .ofList [
    ("Timestamp", ⟨"timestamppb \"google.golang.org/protobuf/types/known/timestamppb\"",
      "timestamppb.New(time.Date(2000, 1, 1, 0, 0, 0, 0, time.UTC))", "timestamppb.Timestamp"⟩),
    ("Time", ⟨"\"time\"", "time.Date(2000, 1, 1, 0, 0, 0, 0, time.UTC)", "time.Time"⟩)]
  requiredImports := ["\"time\""]

end ExternalRegistry

end GoFixtures
