import GoFixtures.Proofs.Fixture.Dependencies

/-!
# The styles carry the same data

A value is made without regard to the style, and so is a fixture file. A style shows in the calls of fixture
functions, in a pointer right around such a call, and in what stands around the data of a function.

* `CallForm`: how a style writes a call, and a pointer right around one; `Value.write` writes a value in such
  a form, and leaves nothing else open.
* `Value.render_eq_write`: both styles write values in this way.
* `styles_share_data`: so the texts of both styles come from one value, and from one file.
-/

namespace GoFixtures

/-- How the call of the fixture function of a type is written, and how a pointer right around such a call. -/
structure CallForm where
  call : String → String
  address : String → String

namespace Value

mutual

/-- The value with its calls in a given form. -/
def write (form : CallForm) : Value → String
  | literal text => text
  | fixture type => form.call type
  | pointer (fixture type) => form.address type
  | pointer inner => "ptr(" ++ write form inner ++ ")"
  | sequence elementType element => "[]" ++ elementType ++ "\x7b" ++ write form element ++ "\x7d"
  | member type [] => "&" ++ type ++ "\x7b\x7d"
  | member type fields =>
    "&" ++ type ++ "\x7b\n\t\t\t" ++ ",\n\t\t\t".intercalate (writeFields form fields) ++ ",\n\t\t\x7d"

/-- The fields of a member. -/
def writeFields (form : CallForm) : List (String × Value) → List String
  | [] => []
  | (name, value) :: fields => (name ++ ": " ++ write form value) :: writeFields form fields

end

end Value

namespace Options

/-- The same names in a given style. -/
def withStyle (o : Options) (style : Style) : Options := { o with style }

/-- The form of calls in a style: a plain function returns the value, a mutable one a pointer to it. -/
def callForm (o : Options) : Style → CallForm
  | .plain => ⟨fun type => o.fixtureName type ++ "()", fun type => "ptr(" ++ (o.fixtureName type ++ "()") ++ ")"⟩
  | .mutable => ⟨fun type => "*" ++ (o.fixtureName type ++ "()"), fun type => "*" ++ (o.fixtureName type ++ "()")⟩

end Options

variable {m : TypeModel} {o : Options} {registry : ExternalRegistry} {style : Style}

namespace Value

theorem renderCall_withStyle {type : String} :
    renderCall (o.withStyle style) type = (o.callForm style).call type := by
  cases style <;> rfl

theorem render_address {type : String} :
    render (o.withStyle style) (pointer (fixture type)) = (o.callForm style).address type := by
  cases style <;> simp [render, isFixture, renderCall, Options.withStyle, Options.callForm, Options.fixtureName]

theorem writeFields_cons {form : CallForm} {f : String × Value} {fields : List (String × Value)} :
    writeFields form (f :: fields) = (f.1 ++ ": " ++ f.2.write form) :: writeFields form fields := rfl

/-- Fields on lines of their own are the fields with line ends between them. -/
theorem renderFields_eq_join {form : CallForm} {fields : List (String × Value)} (hne : fields ≠ [])
    (h : ∀ f ∈ fields, f.2.render o = f.2.write form) :
    renderFields o fields = "\n\t\t\t" ++ ",\n\t\t\t".intercalate (writeFields form fields) ++ "," := by
  have hseparator : ",\n\t\t\t" = "," ++ "\n\t\t\t" := by decide
  induction fields with
  | nil => exact absurd rfl hne
  | cons f fields ih =>
    rw [List.forall_mem_cons] at h
    cases fields with
    | nil => simp [renderFields, writeFields, h.1, String.append_assoc]
    | cons g fields =>
      have hrest := ih (List.cons_ne_nil g fields) h.2
      have hmore : writeFields form (g :: fields) ≠ [] := List.cons_ne_nil _ _
      rw [writeFields_cons, String.intercalate_cons_of_ne_nil hmore, renderFields, hrest, h.1]
      simp only [String.append_assoc, hseparator]

theorem exists_of_isFixture {v : Value} (h : v.isFixture = true) : ∃ type, v = fixture type := by
  cases v with
  | fixture type => exact ⟨type, rfl⟩
  | _ => cases h

theorem render_pointer {inner : Value} (h : inner.isFixture = false) :
    render o (pointer inner) = "ptr(" ++ render o inner ++ ")" := by
  rw [render, h, Bool.and_false, if_neg Bool.false_ne_true]

theorem write_pointer {form : CallForm} {inner : Value} (h : inner.isFixture = false) :
    write form (pointer inner) = "ptr(" ++ write form inner ++ ")" := by
  cases inner with
  | fixture type => cases h
  | _ => simp only [write]

mutual

/-- **Both styles write values alike**, but for calls and pointers right around them. -/
theorem render_eq_write (v : Value) : v.render (o.withStyle style) = v.write (o.callForm style) := by
  match v with
  | literal text => rw [render, write]
  | fixture type => rw [render, write, renderCall_withStyle]
  | pointer inner =>
    -- the styles differ in a pointer only if it is right around a call
    cases h : inner.isFixture with
    | true =>
      obtain ⟨type, rfl⟩ := exists_of_isFixture h
      rw [write, render_address]
    | false => rw [render_pointer h, write_pointer h, render_eq_write inner]
  | sequence elementType element => rw [render, write, render_eq_write element]
  | member type [] => rw [render, write]
  | member type (f :: fields) =>
    have hfields := renderFields_eq_join (List.cons_ne_nil f fields) (render_eq_write_of_mem (f :: fields))
    rw [render, hfields, write]
    · have hend : ",\n\t\t\x7d" = "," ++ "\n\t\t\x7d" := by decide
      have hopen : "\x7b\n\t\t\t" = "\x7b" ++ "\n\t\t\t" := by decide
      simp only [String.append_assoc, hend, hopen]
    · exact List.cons_ne_nil f fields
    · exact List.cons_ne_nil f fields

theorem render_eq_write_of_mem (fields : List (String × Value)) :
    ∀ f ∈ fields, f.2.render (o.withStyle style) = f.2.write (o.callForm style) := by
  match fields with
  | [] => exact List.forall_mem_nil _
  | (_, v) :: fields => exact List.forall_mem_cons.2 ⟨render_eq_write v, render_eq_write_of_mem fields⟩

end

end Value

theorem valueOf_withStyle {field enclosing : String} {t : TypeRef} :
    valueOf m (o.withStyle style) registry field enclosing t = valueOf m o registry field enclosing t := by
  have hexpand : ∀ s, Value.expand m (o.withStyle style) registry s = Value.expand m o registry s :=
    (TypeModel.Equiv.refl m).expand_eq rfl fun _ _ => rfl
  exact Value.ofRef_congr rfl (fun s _ => hexpand s) fun _ _ => rfl

theorem FixtureFile.ofModel_withStyle {package : String} :
    ofModel m package (o.withStyle style) registry = ofModel m package o registry := by
  have hqualifier : (o.withStyle style).qualifier = o.qualifier := rfl
  exact ofModel_congr (.refl m) hqualifier rfl (fun _ _ => rfl) package

/-- A function is defined under the same name in both styles. -/
theorem FixtureFunction.exists_render_eq {f : FixtureFunction} :
    ∃ rest, f.render (o.withStyle style) = "func " ++ o.fixtureName f.type ++ "(" ++ rest := by
  have hname : (o.withStyle style).fixtureName f.type = o.fixtureName f.type := rfl
  have hplain : "() " = "(" ++ ") " := by decide
  have hmutable : "(mods ...func(*" = "(" ++ "mods ...func(*" := by decide
  rw [render, signature, hname]
  cases style with
  | plain => exact ⟨_, by simp only [Options.withStyle, hplain, String.append_assoc]; rfl⟩
  | mutable => exact ⟨_, by simp only [Options.withStyle, hmutable, String.append_assoc]; rfl⟩

/-- **The styles share their data.** There is one value for a reference, and both styles are that value in
their own form of calls, or neither style has a text. There is one file for a model: both styles begin with
the same package clause and the same imports, and have the same functions in the same order, or neither style
has a text. -/
theorem styles_share_data (m : TypeModel) (o : Options) (registry : ExternalRegistry) :
    (∀ field enclosing t,
      (∃ v : Value, ∀ style, valueOf m (o.withStyle style) registry field enclosing t = .ok v ∧
        synthesize m (o.withStyle style) registry field enclosing t = .ok (v.write (o.callForm style))) ∨
      ∀ style, ∃ e, synthesize m (o.withStyle style) registry field enclosing t = .error e) ∧
    ∀ package,
      (∃ functions : List FixtureFunction, ∀ style,
        FixtureFile.ofModel m package (o.withStyle style) registry =
          .ok ⟨package, collectImports m registry, functions⟩ ∧
        generate m package (o.withStyle style) registry = .ok ("package " ++ package ++ "\n\n"
          ++ FixtureFile.importBlock (collectImports m registry) ++ FixtureFile.pointerHelper ++ "\n\n"
          ++ String.join (functions.map (FixtureFunction.render (o.withStyle style)))) ∧
        ∀ f ∈ functions, ∃ rest, f.render (o.withStyle style) = "func " ++ o.fixtureName f.type ++ "(" ++ rest) ∨
      ∀ style, ∃ e, generate m package (o.withStyle style) registry = .error e := by
  refine ⟨fun field enclosing t => ?_, fun package => ?_⟩
  · cases hv : valueOf m o registry field enclosing t with
    | error e =>
      refine .inr fun style => ⟨e, ?_⟩
      rw [synthesize, valueOf_withStyle, hv]
      rfl
    | ok v =>
      refine .inl ⟨v, fun style => ?_⟩
      have hstyle : valueOf m (o.withStyle style) registry field enclosing t = .ok v := by
        rw [valueOf_withStyle, hv]
      refine ⟨hstyle, ?_⟩
      rw [synthesize, hstyle, ← Value.render_eq_write]
      rfl
  · cases hfile : FixtureFile.ofModel m package o registry with
    | error e =>
      refine .inr fun style => ⟨e, ?_⟩
      rw [generate, FixtureFile.ofModel_withStyle, hfile]
      rfl
    | ok file =>
      have hstyle : ∀ style, FixtureFile.ofModel m package (o.withStyle style) registry = .ok file := by
        intro style
        rw [FixtureFile.ofModel_withStyle, hfile]
      obtain ⟨functions, rfl⟩ := FixtureFile.exists_functions_of_ofModel hfile
      refine .inl ⟨functions, fun style => ⟨hstyle style, ?_, fun f _ => FixtureFunction.exists_render_eq⟩⟩
      rw [generate, hstyle style]
      rfl

end GoFixtures
