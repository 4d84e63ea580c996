import GoFixtures.Model.TypeModel

/-!
# Sum types

A choice between records is declared as an interface called `isParent_Choice`, with one record for each
alternative, called `Parent_Alternative`. Nothing lists the alternatives; they are told by their names. One is
enough for a fixture, so a sum type keeps the first record that matches it.

* `matchesMember`: the record begins with what stands before some underscore of the parent's name, and goes on
  with an underscore.
-/

namespace GoFixtures

/-- Whether a name has the mark of a sum type and something behind it. -/
def isSumTypeName (name : String) : Bool :=
  match name.toList with
  | 'i' :: 's' :: _ :: _ => true
  | _ => false

/-- What stands before each underscore of a name, the shortest first. -/
def stems : List Char → List (List Char)
  | [] => []
  | c :: cs =>
    let longer := (stems cs).map (c :: ·)
    if c = '_' then [] :: longer else longer

/-- Whether the name of a record looks like that of an alternative of a sum type. -/
def matchesMember (sumType record : String) : Bool :=
  (stems (sumType.toList.drop 2)).any fun stem => (stem ++ ['_']).isPrefixOf record.toList

namespace TypeModel

/-- Enters a sum type without a member; one that is there already stays as it is. -/
def registerSumType (m : TypeModel) (name : String) : TypeModel :=
  if m.sumTypes.contains name then m else { m with sumTypes := m.sumTypes.put name none }

/-- Whether a record becomes the member of a sum type with the given member. -/
def takesMember (record sumType : String) (member : Option String) : Bool :=
  member.isNone && matchesMember sumType record

/-- The sum types that a record becomes the member of. -/
def openFor (m : TypeModel) (record : String) : List String :=
  (m.sumTypes.entries.filter fun (sumType, member) => takesMember record sumType member).map Prod.fst

/-- Makes a record the member of every sum type without one that it matches. -/
def assignMember (m : TypeModel) (record : String) : TypeModel :=
  { m with sumTypes := m.sumTypes.mapWithKey fun sumType member =>
      if takesMember record sumType member then some record else member }

/-- Assigns records one after the other. -/
def resolveSumTypes (m : TypeModel) (records : List String) : TypeModel :=
  records.foldl assignMember m

end TypeModel

end GoFixtures
