/-!
# References to types

What a field says about its type: the kind of declaration it names, under pointers and sequences.

* `PrimitiveClass.ofName?` sorts the names of the primitive types.
-/

namespace GoFixtures

/-- What the values of a primitive type are. -/
inductive PrimitiveClass
  | text | boolean | numeric
deriving DecidableEq

namespace PrimitiveClass

/-- The names of the numeric types. -/
def numericNames : List String :=
  ["int", "int8", "int16", "int32", "int64", "uint", "uint8", "uint16", "uint32", "uint64", "uintptr",
    "float32", "float64", "complex64", "complex128", "byte", "rune"]

/-- The class of the primitive type with a name, if it names one. -/
def ofName? (name : String) : Option PrimitiveClass :=
  if name = "string" then some text
  else if name = "bool" then some boolean
  else if numericNames.contains name then some numeric
  else none

end PrimitiveClass

/-- Whether a name is that of a primitive type. -/
def isPrimitiveName (name : String) : Bool := (PrimitiveClass.ofName? name).isSome

/-- A reference to a type. A record, enumeration, alias, sum type or external type is referred to by name; what
could be none of them keeps its spelling, for messages alone. -/
inductive TypeRef
  | primitive (name : String)
  | record (name : String)
  | enumeration (name : String)
  | typeAlias (name : String)
  | sumType (name : String)
  | pointer (element : TypeRef)
  | sequence (element : TypeRef)
  | external (name : String)
  | unresolved (spelling : String)
deriving DecidableEq

namespace TypeRef

instance : Inhabited TypeRef := ⟨unresolved ""⟩

/-- What is left of a reference below its pointers and sequences. -/
def leaf : TypeRef → TypeRef
  | pointer e => leaf e
  | sequence e => leaf e
  | t => t

end TypeRef

end GoFixtures
