import GoFixtures.Fixture.Synthesis

/-!
# Values and the types of their fields

Plain fixtures are checked by the rules of the language for constants, calls, pointers and slices. The helper
for pointers takes the type of the pointer from the value alone, so a number under a pointer is an `int`,
whatever the field says.

* `HasType`: the typing rules for expressions; `ExpressionType.AssignableTo`: what may be assigned.
* `TypeRef.KeepsTypes`: no pointer stands right around a number that is no `int`.
* `assignable_iff`: just then the value of a field can be assigned to it.
* `int32_not_assignable`: a field whose value cannot.
-/

namespace GoFixtures

/-- The types of fields: names, pointers and slices. -/
inductive ValueType
  | named (name : String)
  | pointer (element : ValueType)
  | slice (element : ValueType)
deriving DecidableEq

namespace ValueType

/-- The type as it is written. -/
def spell : ValueType → String
  | named n => n
  | pointer e => "*" ++ spell e
  | slice e => "[]" ++ spell e

end ValueType

/-- The type that a constant has where nothing else is asked for. -/
def PrimitiveClass.defaultType : PrimitiveClass → ValueType
  | text => .named "string"
  | boolean => .named "bool"
  | numeric => .named "int"

/-- What an expression is: a constant without a type, or a value of a type. -/
inductive ExpressionType
  | constant (c : PrimitiveClass)
  | typed (t : ValueType)

namespace ExpressionType

/-- The type that a parameter of any type takes from the expression. -/
def settled : ExpressionType → ValueType
  | constant c => c.defaultType
  | typed t => t

/-- A constant can be assigned to every type of its class, a value to its own type. -/
def AssignableTo : ExpressionType → ValueType → Prop
  | constant c, .named n => PrimitiveClass.ofName? n = some c
  | constant _, _ => False
  | typed u, t => u = t

end ExpressionType

/-- **The typing rules** for the expressions of plain fixtures: constants, calls of fixture functions, the
helper for pointers, and slices with one element. -/
inductive HasType (o : Options) : String → ExpressionType → Prop
  | text {w s : String} (hw : w = "\"" ++ s ++ "\"") : HasType o w (.constant .text)
  | boolean : HasType o "true" (.constant .boolean)
  | numeric : HasType o "1" (.constant .numeric)
  | call {w n : String} (hw : w = o.fixtureName n ++ "()") : HasType o w (.typed (.named n))
  | pointer {w v : String} {τ : ExpressionType} (hw : w = "ptr(" ++ v ++ ")") (h : HasType o v τ) :
      HasType o w (.typed (.pointer τ.settled))
  | slice {w v : String} {τ : ExpressionType} {t : ValueType}
      (hw : w = "[]" ++ t.spell ++ "\x7b" ++ v ++ "\x7d") (h : HasType o v τ)
      (ha : τ.AssignableTo t) : HasType o w (.typed (.slice t))

namespace TypeRef

/-- The type that a reference stands for, if nothing is put before names. -/
def valueType : TypeRef → ValueType
  | primitive n | record n | enumeration n | typeAlias n | sumType n | external n => .named n
  | pointer e => .pointer (valueType e)
  | sequence e => .slice (valueType e)
  | unresolved _ => .named "interface\x7b\x7d"

/-- References to primitive types and to declarations with a fixture, under pointers and sequences. -/
def IsTypeable : TypeRef → Prop
  | primitive n => isPrimitiveName n
  | record _ | enumeration _ | typeAlias _ => True
  | pointer e | sequence e => IsTypeable e
  | sumType _ | external _ | unresolved _ => False

/-- No pointer stands right around a number that is no `int`. -/
def KeepsTypes : TypeRef → Prop
  | pointer (primitive n) => PrimitiveClass.ofName? n = some .numeric → n = "int"
  | pointer e | sequence e => KeepsTypes e
  | _ => True

end TypeRef

variable {m : TypeModel} {o : Options} {registry : ExternalRegistry} {n field enclosing w v : String}
    {c : PrimitiveClass}
  {t e : TypeRef} {τ : ExpressionType}

open TypeRef

/-! ### Expressions by their first characters -/

/-- What the texts of a rule begin with. -/
theorem HasType.head? (h : HasType o w τ) :
    (∃ c, τ = .constant c) ∧ w.toList.head? ∈ [some '"', some 't', some '1'] ∨
    (∃ u, τ = .typed u) ∧ w.toList.head? ∈ [some 'F', some 'p', some '['] := by
  cases h with
  | text hw => exact .inl ⟨⟨_, rfl⟩, by simp [hw]⟩
  | boolean => exact .inl ⟨⟨_, rfl⟩, by decide⟩
  | numeric => exact .inl ⟨⟨_, rfl⟩, by decide⟩
  | call hw => exact .inr ⟨⟨_, rfl⟩, by simp [hw, Options.fixtureName]⟩
  | pointer hw => exact .inr ⟨⟨_, rfl⟩, by simp [hw]⟩
  | slice hw => exact .inr ⟨⟨_, rfl⟩, by simp [hw]⟩

/-- Only a rule for values gives a type to what begins like one. -/
theorem HasType.exists_typed (h : HasType o w τ) (hw : w.toList.head? ∈ [some 'F', some 'p', some '[']) :
    ∃ u, τ = .typed u := by
  rcases h.head? with ⟨-, hc⟩ | ⟨hu, -⟩
  · simp only [List.mem_cons, List.not_mem_nil, or_false] at hc hw
    rcases hc with hc | hc | hc <;> rw [hc] at hw <;> simp at hw
  · exact hu

theorem hasType_one_iff : HasType o "1" τ ↔ τ = .constant .numeric := by
  constructor
  · intro h
    generalize hw : "1" = w at h
    cases h with
    | numeric => rfl
    | boolean => exact absurd hw (by decide)
    | text hs => exact absurd (congrArg (·.toList.head?) (hw.trans hs)) (by simp)
    | call hs => exact absurd (congrArg (·.toList.head?) (hw.trans hs)) (by simp [Options.fixtureName])
    | pointer hs => exact absurd (congrArg (·.toList.head?) (hw.trans hs)) (by simp)
    | slice hs => exact absurd (congrArg (·.toList.head?) (hw.trans hs)) (by simp)
  · rintro rfl
    exact .numeric

/-- A pointer that the helper makes has its type from what it points to. -/
theorem hasType_pointer_iff : HasType o ("ptr(" ++ v ++ ")") τ ↔ ∃ σ, HasType o v σ ∧
    τ = .typed (.pointer σ.settled) := by
  constructor
  · intro h
    generalize hw : "ptr(" ++ v ++ ")" = w at h
    cases h with
    | pointer hs h =>
      obtain rfl := String.append_right_inj _ |>.1 (String.append_left_inj _ |>.1 (hw.trans hs))
      exact ⟨_, h, rfl⟩
    | numeric => exact absurd (congrArg (·.toList.head?) hw) (by simp)
    | boolean => exact absurd (congrArg (·.toList.head?) hw) (by simp)
    | text hs => exact absurd (congrArg (·.toList.head?) (hw.trans hs)) (by simp)
    | call hs => exact absurd (congrArg (·.toList.head?) (hw.trans hs)) (by simp [Options.fixtureName])
    | slice hs => exact absurd (congrArg (·.toList.head?) (hw.trans hs)) (by simp)
  · rintro ⟨σ, h, rfl⟩
    exact .pointer rfl h

/-- A slice has the type that is written in front of its element. -/
theorem hasType_slice_iff {u : ValueType} :
    HasType o ("[]" ++ u.spell ++ "\x7b" ++ v ++ "\x7d") (.typed (.slice u)) ↔
    ∃ σ, HasType o v σ ∧ σ.AssignableTo u := by
  constructor
  · intro h
    generalize hw : "[]" ++ u.spell ++ "\x7b" ++ v ++ "\x7d" = w at h
    cases h with
    | slice hs h ha =>
      obtain rfl := String.append_right_inj _ |>.1 (String.append_left_inj _ |>.1 (hw.trans hs))
      exact ⟨_, h, ha⟩
  · rintro ⟨σ, h, ha⟩
    exact .slice rfl h ha

/-! ### Primitive types -/

theorem eq_of_ofName?_text (h : PrimitiveClass.ofName? n = some .text) : n = "string" := by
  unfold PrimitiveClass.ofName? at h
  split at h
  · assumption
  · split at h
    · cases h
    · split at h <;> cases h

theorem eq_of_ofName?_boolean (h : PrimitiveClass.ofName? n = some .boolean) : n = "bool" := by
  unfold PrimitiveClass.ofName? at h
  split at h
  · cases h
  · split at h
    · assumption
    · split at h <;> cases h

/-- The literal of a primitive type is a constant of its class. -/
theorem hasType_primitiveValue (h : PrimitiveClass.ofName? n = some c) :
    HasType o (primitiveValue n field enclosing) (.constant c) := by
  unfold primitiveValue
  rw [h]
  cases c with
  | text =>
    show HasType o (if identifierFields.contains field then _ else _) _
    split
    · exact .text (s := enclosing ++ "ID")
        (by rw [String.append_assoc, String.append_assoc, String.append_assoc]; rfl)
    · exact .text rfl
  | boolean => exact .boolean
  | numeric => exact .numeric

/-- A pointer to the literal of a primitive type is a pointer to that type, unless the literal is a number and
settles on another. -/
theorem primitive_settled_iff (h : PrimitiveClass.ofName? n = some c) :
    (∃ σ, HasType o (primitiveValue n field enclosing) σ ∧ σ.settled = .named n) ↔
      (PrimitiveClass.ofName? n = some .numeric → n = "int") := by
  cases c with
  | text =>
    obtain rfl := eq_of_ofName?_text h
    exact iff_of_true ⟨_, hasType_primitiveValue h, rfl⟩ fun hn => by simp [h] at hn
  | boolean =>
    obtain rfl := eq_of_ofName?_boolean h
    exact iff_of_true ⟨_, hasType_primitiveValue h, rfl⟩ fun hn => by simp [h] at hn
  | numeric =>
    have hvalue : primitiveValue n field enclosing = "1" := by simp only [primitiveValue, h]
    rw [hvalue]
    constructor
    · rintro ⟨σ, hσ, hs⟩ -
      obtain rfl := hasType_one_iff.1 hσ
      exact (ValueType.named.inj hs).symm
    · intro hn
      exact ⟨_, .numeric, congrArg ValueType.named (hn h).symm⟩

/-! ### References -/

/-- Types are spelled as what they are. -/
theorem typeName_eq_spell (hq : o.qualifier = "") (ht : t.IsTypeable) :
    typeName o registry t = t.valueType.spell := by
  induction t with
  | primitive n => rfl
  | record n | enumeration n | typeAlias n => simp [typeName, valueType, ValueType.spell, Options.qualify, hq]
  | pointer e ih => simp [typeName, valueType, ValueType.spell, ih ht]
  | sequence e ih => simp [typeName, valueType, ValueType.spell, ih ht]
  | sumType n | external n | unresolved s => exact absurd ht id

/-- Plain fixtures make every pointer to what has a type with the helper. -/
theorem synthesize_pointer (hs : o.style = .plain) (he : e.IsTypeable)
    (hv : synthesize m o registry field enclosing e = .ok v) :
    synthesize m o registry field enclosing (.pointer e) = .ok ("ptr(" ++ v ++ ")") := by
  have hpointer : valueOf m o registry field enclosing (.pointer e) =
      (valueOf m o registry field enclosing e).map .pointer := by
    cases e with
    | sumType n | external n | unresolved s => exact absurd he id
    | _ => rfl
  rw [synthesize] at hv ⊢
  rw [hpointer]
  cases hvalue : valueOf m o registry field enclosing e with
  | error x => rw [hvalue] at hv; cases hv
  | ok inner =>
    rw [hvalue] at hv
    obtain rfl : inner.render o = v := Except.ok.inj hv
    simp [Except.map, Value.render, hs]

theorem synthesize_sequence (hv : synthesize m o registry field enclosing e = .ok v) :
    synthesize m o registry field enclosing (.sequence e) =
      .ok ("[]" ++ typeName o registry e ++ "\x7b" ++ v ++ "\x7d") := by
  rw [synthesize] at hv ⊢
  have hsequence : valueOf m o registry field enclosing (.sequence e) =
      (valueOf m o registry field enclosing e).map (.sequence (typeName o registry e)) := rfl
  rw [hsequence]
  cases hvalue : valueOf m o registry field enclosing e with
  | error x => rw [hvalue] at hv; cases hv
  | ok element =>
    rw [hvalue] at hv
    obtain rfl : element.render o = v := Except.ok.inj hv
    simp [Except.map, Value.render]

/-- The value of a reference to a declaration is a call. -/
theorem render_fixture (hs : o.style = .plain) : (Value.fixture n).render o = o.fixtureName n ++ "()" := by
  simp [Value.render, Value.renderCall, hs]

/-- **One level of a reference after the other**: it has a value, which is a constant only at a primitive
type, and which can be assigned just if the reference keeps types. -/
theorem exists_synthesize (hs : o.style = .plain) (hq : o.qualifier = "") (ht : t.IsTypeable) :
    ∃ w, synthesize m o registry field enclosing t = .ok w ∧
      ((∀ n, t ≠ .primitive n) → w.toList.head? ∈ [some 'F', some 'p', some '[']) ∧
      ((∃ τ, HasType o w τ ∧ τ.AssignableTo t.valueType) ↔ t.KeepsTypes) := by
  induction t with
  | primitive n =>
    obtain ⟨c, hc⟩ := Option.isSome_iff_exists.1 ht
    exact ⟨_, rfl, fun hp => absurd rfl (hp n), iff_of_true ⟨_, hasType_primitiveValue hc, hc⟩ trivial⟩
  | record n | enumeration n | typeAlias n =>
    refine ⟨_, rfl, fun _ => ?_, iff_of_true ⟨_, .call (render_fixture hs), rfl⟩ trivial⟩
    simp [render_fixture hs, Options.fixtureName]
  | sumType n | external n | unresolved s => exact absurd ht id
  | pointer e ih =>
    obtain ⟨v, hv, hhead, hiff⟩ := ih ht
    refine ⟨_, synthesize_pointer (e := e) hs ht hv, fun _ => by simp, ?_⟩
    -- what the pointer points to has the type that its value settles on
    have hsettled : (∃ τ, HasType o ("ptr(" ++ v ++ ")") τ ∧ τ.AssignableTo (valueType (.pointer e))) ↔
        ∃ σ, HasType o v σ ∧ σ.settled = e.valueType := by
      constructor
      · rintro ⟨τ, hτ, ha⟩
        obtain ⟨σ, hσ, rfl⟩ := hasType_pointer_iff.1 hτ
        exact ⟨σ, hσ, ValueType.pointer.inj ha⟩
      · rintro ⟨σ, hσ, ha⟩
        exact ⟨_, hasType_pointer_iff.2 ⟨σ, hσ, rfl⟩, congrArg ValueType.pointer ha⟩
    rw [hsettled]
    by_cases hp : ∃ n, e = .primitive n
    · obtain ⟨n, rfl⟩ := hp
      obtain ⟨c, hc⟩ := Option.isSome_iff_exists.1 ht
      obtain rfl : primitiveValue n field enclosing = v := Except.ok.inj hv
      exact primitive_settled_iff hc
    · have hne : ∀ n, e ≠ .primitive n := fun n hn => hp ⟨n, hn⟩
      have hkeeps : KeepsTypes (.pointer e) ↔ e.KeepsTypes := by
        cases e with
        | primitive n => exact absurd rfl (hne n)
        | _ => rfl
      rw [hkeeps, ← hiff]
      -- a value that is no constant settles on its own type
      constructor
      · rintro ⟨σ, hσ, ha⟩
        obtain ⟨u, rfl⟩ := hσ.exists_typed (hhead hne)
        exact ⟨_, hσ, ha⟩
      · rintro ⟨σ, hσ, ha⟩
        obtain ⟨u, rfl⟩ := hσ.exists_typed (hhead hne)
        exact ⟨_, hσ, ha⟩
  | sequence e ih =>
    obtain ⟨v, hv, -, hiff⟩ := ih ht
    refine ⟨_, synthesize_sequence hv, fun _ => by simp, ?_⟩
    rw [KeepsTypes, ← hiff, typeName_eq_spell hq (t := e) ht, ← hasType_slice_iff (o := o) (v := v)]
    constructor
    · rintro ⟨τ, hτ, ha⟩
      obtain ⟨u, rfl⟩ := hτ.exists_typed (by simp)
      obtain rfl : u = _ := ha
      exact hτ
    · intro hτ
      exact ⟨_, hτ, rfl⟩

/-- **The value of a field can be assigned to it** just if no pointer in its type stands right around a number
that is no `int`. This is for plain fixtures without a qualifier; the type is the one that the reference is
spelled as. -/
theorem assignable_iff (m : TypeModel) (registry : ExternalRegistry) (field enclosing : String)
    (hs : o.style = .plain)
    (hq : o.qualifier = "") (ht : t.IsTypeable) : typeName o registry t = t.valueType.spell ∧
      ∃ w, synthesize m o registry field enclosing t = .ok w ∧
        ((∃ τ, HasType o w τ ∧ τ.AssignableTo t.valueType) ↔ t.KeepsTypes) := by
  have hvalue : ∃ w, synthesize m o registry field enclosing t = .ok w ∧
      ((∀ n, t ≠ .primitive n) → w.toList.head? ∈ [some 'F', some 'p', some '[']) ∧
      ((∃ τ, HasType o w τ ∧ τ.AssignableTo t.valueType) ↔ t.KeepsTypes) := exists_synthesize hs hq ht
  obtain ⟨w, hw, -, hiff⟩ := hvalue
  exact ⟨typeName_eq_spell hq ht, w, hw, hiff⟩

/-- Plain fixtures with the standard names. -/
def plainOptions : Options := { style := .plain }

/-- A slice of pointers to slices of pointers to integers, as the type of a field. -/
def wheelsType : TypeRef := .sequence (.pointer (.sequence (.pointer (.primitive "int"))))

theorem assignable_iff_wheels : plainOptions.style = .plain ∧ plainOptions.qualifier = "" ∧
    wheelsType.IsTypeable ∧
    wheelsType.KeepsTypes ∧ typeName plainOptions .standard wheelsType = wheelsType.valueType.spell ∧
      ∃ w, synthesize .empty plainOptions .standard "Wheels" "Car" wheelsType = .ok w ∧
        ((∃ τ, HasType plainOptions w τ ∧ τ.AssignableTo wheelsType.valueType) ↔ wheelsType.KeepsTypes) := by
  have ht : wheelsType.IsTypeable := by
    show isPrimitiveName "int" = true
    decide
  exact ⟨rfl, rfl, ht, fun _ => rfl, assignable_iff .empty .standard "Wheels" "Car" rfl rfl ht⟩

/-- A number of another type than `int` cannot be assigned under a pointer. -/
theorem int32_not_assignable : TypeRef.IsTypeable (.pointer (.primitive "int32")) ∧
    typeName plainOptions .standard (.pointer (.primitive "int32")) = "*int32" ∧
    synthesize .empty plainOptions .standard "Age" "User" (.pointer (.primitive "int32")) = .ok "ptr(1)" ∧
    ¬ ∃ τ, HasType plainOptions "ptr(1)" τ ∧
      τ.AssignableTo (TypeRef.valueType (.pointer (.primitive "int32"))) := by
  refine ⟨by show isPrimitiveName "int32" = true; decide, by decide, rfl, ?_⟩
  rintro ⟨τ, hτ, ha⟩
  obtain ⟨σ, hσ, rfl⟩ := hasType_pointer_iff.1 (show HasType plainOptions ("ptr(" ++ "1" ++ ")") τ from hτ)
  obtain rfl := hasType_one_iff.1 hσ
  have hname : "int" = "int32" := ValueType.named.inj (ValueType.pointer.inj ha)
  exact absurd hname (by decide)

end GoFixtures
