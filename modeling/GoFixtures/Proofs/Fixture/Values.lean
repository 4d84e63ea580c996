import GoFixtures.Proofs.Expansion
import GoFixtures.Proofs.Fixture.Pieces
import GoFixtures.Proofs.ModelNames

/-!
# Values are well written

The lexer passes over a value as it is written, with as many braces open behind it as before it, if it does so
over the texts that the value is made of (`Value.Written`). It does for the values of a model in which all
names are names.

* `IsType`, `IsLiteral`: texts that can stand for types and values.
* `Value.isLiteral_render`: values as they are written.
* `Value.written_ofFields`, `Value.written_expand`: the values for the fields of records.
-/

namespace GoFixtures

open Go Go.Layout Go.TokenReader Text

variable {o : Options} {s : List Char} {n : Nat} {name type text w : String}

/-! ### Names of fixture functions -/

namespace Go

/-- A name consists of characters of names. -/
theorem isNameCharacter_of_isName (h : IsName w) : ∀ c ∈ w.toList, Lexeme.isNameCharacter c := by
  have hvalid := h.1
  cases hw : w.toList with
  | nil => simp [hw, Lexeme.isValid] at hvalid
  | cons c cs =>
    simp only [hw, Lexeme.isValid, Bool.and_eq_true, List.all_eq_true] at hvalid
    exact List.forall_mem_cons.2 ⟨Lexeme.isNameCharacter_of_isNameStart hvalid.1.1, hvalid.2⟩

/-- What begins with a capital letter is no keyword. -/
theorem isName_of_capital {cs : List Char} (hw : w.toList = 'F' :: cs)
    (h : ∀ c ∈ cs, Lexeme.isNameCharacter c) : IsName w := by
  -- all keywords are in lower case
  have hkeyword : Keyword.ofSpelling? w = none := by
    refine List.find?_eq_none.2 fun k _ hk => ?_
    have hhead : k.spelling.toList.head? ≠ some 'F' := by cases k <;> decide
    rw [of_decide_eq_true hk, hw] at hhead
    exact hhead rfl
  refine ⟨?_, ?_⟩
  · have hstart : Lexeme.isNameStart 'F' = true ∧ isDigit 'F' = false := by decide
    simpa [hw, Lexeme.isValid, hstart] using h
  · rw [Lexeme.kind, String.ofList_toList, hkeyword]
    rfl

end Go

/-- A fixture function has a name if its type has one. -/
theorem Options.Named.isName_fixtureName (ho : o.Named) (h : IsName type) : IsName (o.fixtureName type) := by
  have hw : (o.fixtureName type).toList = 'F' :: ("ixture".toList ++ o.insertion.toList ++ type.toList) := by
    rw [fixtureName, String.toList_append, String.toList_append]
    rfl
  refine isName_of_capital hw fun c hc => ?_
  have hletters : ∀ c ∈ "ixture".toList, Lexeme.isNameCharacter c := List.all_eq_true.1 (by decide)
  rcases List.mem_append.1 hc with hc | hc
  · rcases List.mem_append.1 hc with hc | hc
    · exact hletters c hc
    · exact ho.insertion c hc
  · exact isNameCharacter_of_isName h c hc

/-! ### Types -/

/-- A text that can stand for a type, also right behind a star. -/
structure IsType (text : String) : Prop where
  skims : ∀ s n, EndsWord s → Skims (text.toList ++ s) n s n
  behindStar : ∀ s : List Char, Item.wellSpaced [.op "*"] (text.toList ++ s).head?

namespace IsType

/-- A name is a type. -/
theorem ofName (h : IsName w) : IsType w where
  skims _ _ := Skims.name h
  behindStar _ := wellSpaced_name h (by decide)

/-- A name of another package is a type. -/
theorem qualify (ho : o.Named) (h : IsName w) : IsType (o.qualify w) where
  skims _ _ := Skims.qualified ho h
  behindStar _ := wellSpaced_qualify ho h (by decide)

/-- A pointer to a type is a type. -/
theorem pointer (h : IsType text) : IsType ("*" ++ text) where
  skims s n hs := by
    rw [String.toList_append, List.append_assoc]
    exact (Skims.fixed [.op "*"] (by decide) (h.behindStar s) fun _ => rfl).trans (h.skims s n hs)
  behindStar s := by
    rw [String.toList_append, List.append_assoc]
    rfl

/-- A slice of a type is a type. -/
theorem sequence (h : IsType text) : IsType ("[]" ++ text) where
  skims s n hs := by
    rw [String.toList_append, List.append_assoc]
    exact (Skims.separated [.op "[", .op "]"] (by decide) rfl fun _ => rfl).trans (h.skims s n hs)
  behindStar s := by
    rw [String.toList_append, List.append_assoc]
    rfl

/-- The empty interface is a type. -/
theorem emptyInterface : IsType "interface\x7b\x7d" where
  skims s n _ := Skims.separated [.word "interface", .op "\x7b", .op "\x7d"] (by decide) rfl fun _ => rfl
  behindStar _ := rfl

end IsType

/-! ### The standard external types -/

namespace ExternalRegistry

/-- What a registry finds is in it. -/
theorem mem_values_of_get? {registry : ExternalRegistry} {x : ExternalType} (h : registry.get? name = some x) :
    x ∈ registry.types.values :=
  List.mem_map.2 ⟨_, Entries.mem_of_get?_eq_some h, rfl⟩

/-- The standard types are spelled as types. -/
theorem isType_standard : ∀ text ∈ standard.types.values.map ExternalType.typeExpression, IsType text := by
  have htimestamp : Options.Named ⟨"timestamppb", "", .plain⟩ := ⟨by decide, by simp⟩
  have htime : Options.Named ⟨"time", "", .plain⟩ := ⟨by decide, by simp⟩
  have htexts : standard.types.values.map ExternalType.typeExpression =
    ["timestamppb.Timestamp", "time.Time"] := by decide
  rw [htexts, List.forall_mem_cons, List.forall_mem_singleton]
  exact ⟨IsType.qualify htimestamp (w := "Timestamp") (by decide), IsType.qualify htime (w := "Time") (by decide)⟩

end ExternalRegistry

/-- The name of a type is spelled as a type. -/
theorem isType_typeName (ho : o.Named) {t : TypeRef} (ht : t.Named) : IsType (typeName o .standard t) := by
  induction t with
  | pointer e ih => exact (ih ht).pointer
  | sequence e ih => exact (ih ht).sequence
  | record n | enumeration n | typeAlias n => exact .qualify ho ht
  | primitive n | sumType n => exact .ofName ht
  | unresolved => exact .emptyInterface
  | external n =>
    rw [typeName]
    split
    · rename_i x hx
      split
      · exact .ofName ht
      · exact ExternalRegistry.isType_standard _ (List.mem_map_of_mem (ExternalRegistry.mem_values_of_get? hx))
    · exact .ofName ht

/-! ### Literals -/

/-- A text that can stand for a value. -/
def IsLiteral (text : String) : Prop := ∀ s n, EndsValue s → Skims (text.toList ++ s) n s n

/-- A name, with its package or without, is a literal. -/
theorem isLiteral_qualify (ho : o.Named) (h : IsName w) : IsLiteral (o.qualify w) :=
  fun _ _ hs => Skims.qualified ho h hs.endsWord

/-- A literal that is written as the given parts. -/
theorem isLiteral_fixed (items : List Item) (ht : text.toList = items.flatMap Item.text)
    (hw : valueEnds.all fun c => Item.wellSpaced items (some c))
    (hd : ∀ n e, depth? .brace n (kinds (Item.signs e items)) = some n) : IsLiteral text :=
  fun _ n hs => Skims.fixed items ht (hs.wellSpaced hw) (hd n)

theorem isLiteral_nil : IsLiteral "nil" :=
  isLiteral_fixed [.word "nil"] (by decide) (by decide) fun _ _ => rfl

/-- The values of predeclared types are literals: their texts come from names of fields and types. -/
theorem isLiteral_primitiveValue {primitive field enclosing : String} (hf : IsName field)
    (he : IsName enclosing) :
    IsLiteral (primitiveValue primitive field enclosing) := by
  unfold primitiveValue
  split
  · split
    · have hid : ∀ c ∈ (enclosing ++ "ID").toList, Lexeme.isNameCharacter c := by
        intro c hc
        rw [String.toList_append] at hc
        rcases List.mem_append.1 hc with hc | hc
        · exact isNameCharacter_of_isName he c hc
        · exact List.all_eq_true.1 (by decide : "ID".toList.all Lexeme.isNameCharacter) c hc
      have htext : ("\"" ++ enclosing) ++ "ID\"" = ("\"" ++ (enclosing ++ "ID")) ++ "\"" := by
        rw [show "ID\"" = "ID" ++ "\"" from rfl]
        simp only [String.append_assoc]
      rw [htext]
      exact fun _ _ _ => Skims.quoted hid
    · exact fun _ _ _ => Skims.quoted (isNameCharacter_of_isName hf)
  · exact isLiteral_fixed [.word "true"] (by decide) (by decide) fun _ _ => rfl
  · exact isLiteral_fixed [.lexeme (.number .integer ['1'])] (by decide) (by decide) fun _ _ => rfl
  · exact isLiteral_nil

/-- A literal that is converted into a named type. -/
theorem isLiteral_conversion (ho : o.Named) (h : IsName w) (ht : IsLiteral text) :
    IsLiteral (o.qualify w ++ "(" ++ text ++ ")") := by
  intro s n _
  simp only [String.toList_append, List.append_assoc]
  refine (Skims.qualified ho h (by rfl)).trans ?_
  refine (Skims.separated [.op "("] (by decide) rfl fun _ => rfl).trans ?_
  refine (ht _ n ⟨')', by decide, rfl⟩).trans ?_
  exact Skims.separated [.op ")"] (by decide) rfl fun _ => rfl

/-- The standard values are literals. -/
theorem ExternalRegistry.isLiteral_standard :
    ∀ text ∈ standard.types.values.map ExternalType.value, IsLiteral text := by
  have htexts : standard.types.values.map ExternalType.value =
      ["timestamppb.New(time.Date(2000, 1, 1, 0, 0, 0, 0, time.UTC))",
        "time.Date(2000, 1, 1, 0, 0, 0, 0, time.UTC)"] := by decide
  let arguments := ["2000", "1", "1", "0", "0", "0", "0"].flatMap fun d => [Item.number d, .op ",", .space]
  let date := [.word "time", .op ".", .word "Date", .op "("] ++ arguments ++
    [.word "time", .op ".", .word "UTC", .op ")"]
  rw [htexts, List.forall_mem_cons, List.forall_mem_singleton]
  constructor
  · exact isLiteral_fixed ([.word "timestamppb", .op ".", .word "New", .op "("] ++ date ++ [.op ")"])
      (by decide) (by decide)
      fun _ _ => rfl
  · exact isLiteral_fixed date (by decide) (by decide) fun _ _ => rfl

namespace Value

/-! ### Values -/

/-- A value made of names and of texts that can stand for values and types. -/
inductive Written (o : Options) : Value → Prop
  | literal {text : String} (h : IsLiteral text) : Written o (literal text)
  | fixture {type : String} (h : IsName type) : Written o (fixture type)
  | pointer {inner : Value} (h : Written o inner) : Written o (pointer inner)
  | sequence {type : String} {element : Value} (ht : IsType type) (h : Written o element) :
      Written o (sequence type element)
  | member {name : String} {fields : List (String × Value)} (hn : IsName name) (names : ∀ f ∈ fields, IsName f.1)
      (values : ∀ f ∈ fields, Written o f.2) : Written o (member (o.qualify name) fields)

/-- A call of a fixture function is a literal. -/
theorem isLiteral_renderCall (ho : o.Named) (h : IsName type) : IsLiteral (renderCall o type) := by
  intro s n _
  have hcall : Skims ((o.fixtureName type ++ "()").toList ++ s) n s n := by
    rw [String.toList_append, List.append_assoc]
    exact (Skims.name (ho.isName_fixtureName h) (by rfl)).trans
      (Skims.separated [.op "(", .op ")"] (by decide) rfl fun _ => rfl)
  rw [renderCall]
  split
  · have hstar : Item.wellSpaced [.op "*"] ((o.fixtureName type ++ "()").toList ++ s).head? := by
      rw [String.toList_append, List.append_assoc]
      exact wellSpaced_name (ho.isName_fixtureName h) (by decide)
    rw [String.toList_append, List.append_assoc]
    exact (Skims.fixed [.op "*"] (by decide) hstar fun _ => rfl).trans hcall
  · exact hcall

/-- A field with its value. -/
theorem skims_field (hn : IsName name) (ht : IsLiteral text) :
    Skims ((name ++ ": " ++ text ++ ",").toList ++ s) n s n := by
  have hcolon : Item.wellSpaced [.op ":", .space] (text.toList ++ (",".toList ++ s)).head? := rfl
  simp only [String.toList_append, List.append_assoc]
  refine (Skims.name hn (by rfl)).trans ((Skims.fixed [.op ":", .space] (by decide) hcolon fun _ => rfl).trans ?_)
  exact (ht _ n ⟨',', by decide, rfl⟩).trans (Skims.separated [.op ","] (by decide) rfl fun _ => rfl)

/-- The fields of a record are passed over line by line. -/
theorem skims_renderFields {fields : List (String × Value)} (hn : ∀ f ∈ fields, IsName f.1)
    (hv : ∀ f ∈ fields, IsLiteral (f.2.render o)) : Skims ((renderFields o fields).toList ++ s) n s n := by
  induction fields with
  | nil => exact .refl s n
  | cons f fields ih =>
    rw [List.forall_mem_cons] at hn hv
    rw [renderFields]
    simp only [String.append_assoc, String.toList_append, List.append_assoc]
    refine (Skims.fixed [.lineEnd, .tab, .tab, .tab] (by decide) (wellSpaced_name hn.1 rfl) fun e =>
      by cases e <;> rfl).trans ?_
    have hfield :=
      (skims_field (s := (renderFields o fields).toList ++ s) (n := n) hn.1 hv.1).trans (ih hn.2 hv.2)
    simpa only [String.toList_append, List.append_assoc] using hfield

/-- A literal stays one with a call of the helper around it. -/
theorem isLiteral_ptr (h : IsLiteral text) : IsLiteral ("ptr(" ++ text ++ ")") := by
  intro s n _
  simp only [String.toList_append, List.append_assoc]
  refine (Skims.separated [.word "ptr", .op "("] (by decide) rfl fun _ => rfl).trans ?_
  refine (h _ n ⟨')', by decide, rfl⟩).trans ?_
  exact Skims.separated [.op ")"] (by decide) rfl fun _ => rfl

/-- A slice of one literal is a literal. -/
theorem isLiteral_slice (ht : IsType type) (h : IsLiteral text) :
    IsLiteral ("[]" ++ type ++ "\x7b" ++ text ++ "\x7d") := by
  intro s n _
  simp only [String.toList_append, List.append_assoc]
  refine (Skims.separated [.op "[", .op "]"] (by decide) rfl fun _ => rfl).trans ?_
  refine (ht.skims _ n (by rfl)).trans ?_
  -- one more brace is open around the element
  refine (Skims.separated [.op "\x7b"] (by decide) rfl fun _ => rfl).trans ?_
  refine (h _ (n + 1) ⟨'\x7d', by decide, rfl⟩).trans ?_
  exact Skims.separated [.op "\x7d"] (by decide) rfl fun _ => rfl

/-- A name with the sign for an address in front of it. -/
theorem skims_address (ho : o.Named) (h : IsName w) (hs : EndsWord s) :
    Skims (("&" ++ o.qualify w).toList ++ s) n s n := by
  rw [String.toList_append, List.append_assoc]
  refine (Skims.fixed [.op "&"] (by decide) (wellSpaced_qualify ho h (by decide)) fun _ => rfl).trans ?_
  exact Skims.qualified ho h hs

/-- A record with fields is a literal if its fields are. -/
theorem isLiteral_member (ho : o.Named) (h : IsName w) {fields : List (String × Value)}
    (hn : ∀ f ∈ fields, IsName f.1)
    (hv : ∀ f ∈ fields, IsLiteral (f.2.render o)) : IsLiteral ((member (o.qualify w) fields).render o) := by
  intro s n _
  -- a member without fields is closed on the same line
  cases fields with
  | nil =>
    rw [render, String.toList_append, List.append_assoc]
    refine (skims_address ho h (by rfl)).trans ?_
    exact Skims.separated [.op "\x7b", .op "\x7d"] (by decide) rfl fun _ => rfl
  | cons f fields =>
    rw [render]
    · rw [String.toList_append, String.toList_append, String.toList_append]
      simp only [List.append_assoc]
      refine (skims_address ho h (by rfl)).trans ?_
      refine (Skims.separated [.op "\x7b"] (by decide) rfl fun _ => rfl).trans ?_
      refine (skims_renderFields hn hv).trans ?_
      exact Skims.separated [.lineEnd, .tab, .tab, .op "\x7d"] (by decide) rfl fun e => by cases e <;> rfl
    · exact fun h => List.cons_ne_nil _ _ h

/-- **Values as they are written** can stand for values. -/
theorem isLiteral_render (ho : o.Named) {v : Value} (h : Written o v) : IsLiteral (v.render o) := by
  induction h with
  | literal h =>
    rw [render]
    exact h
  | fixture h =>
    rw [render]
    exact isLiteral_renderCall ho h
  | pointer _ ih =>
    -- a call that returns a pointer already stands for it
    rw [render]
    split
    · exact ih
    · exact isLiteral_ptr ih
  | sequence ht _ ih =>
    rw [render]
    exact isLiteral_slice ht ih
  | member hn names _ ih => exact isLiteral_member ho hn names ih

/-! ### The values of fields -/

section Fields

variable {m : TypeModel} {expand : String → Except CyclicExpansion Value} {field enclosing : String} {v : Value}

theorem written_nothing : Written o nothing := .literal isLiteral_nil

/-- The value of an external type is written in the registry, or is nothing. -/
theorem written_ofExternal : Written o (ofExternal .standard name) := by
  unfold ofExternal
  split
  · rename_i x hx
    exact .literal
      (ExternalRegistry.isLiteral_standard _ (List.mem_map_of_mem (ExternalRegistry.mem_values_of_get? hx)))
  · exact written_nothing

/-- The value for a type is written with literals, however deep the type. -/
theorem written_ofRef (ho : o.Named) (hx : ∀ s v, expand s = .ok v → Written o v) (hf : IsName field)
    (he : IsName enclosing)
    {t : TypeRef} (ht : t.Named) (h : ofRef o .standard expand field enclosing t = .ok v) : Written o v := by
  fun_induction ofRef o .standard expand field enclosing t generalizing v with
  | case1 => exact Except.ok.inj h ▸ .literal (isLiteral_primitiveValue hf he)
  | case2 | case3 | case4 => exact Except.ok.inj h ▸ .fixture ht
  | case5 s => exact hx s v h
  | case6 | case12 => exact Except.ok.inj h ▸ written_nothing
  | case7 | case11 => exact Except.ok.inj h ▸ written_ofExternal
  | case8 => exact Except.ok.inj h ▸ .pointer written_nothing
  | case9 t _ _ ih =>
    obtain ⟨w, hw, rfl⟩ := map_eq_ok_iff.1 h
    exact .pointer (ih ht hw)
  | case10 t ih =>
    obtain ⟨w, hw, rfl⟩ := map_eq_ok_iff.1 h
    exact .sequence (isType_typeName ho ht) (ih ht hw)

/-- **The values for fields**, if sum types expand into well-written values. -/
theorem written_ofFields (ho : o.Named) (hx : ∀ s v, expand s = .ok v → Written o v) (he : IsName enclosing)
    {fields : List Field}
    (hf : ∀ f ∈ fields, IsName f.name ∧ f.type.Named) {values : List (String × Value)}
    (h : ofFields o .standard expand enclosing fields = .ok values) :
    ∀ nv ∈ values, IsName nv.1 ∧ Written o nv.2 := by
  have hvalues := ofFields_eq_ok_iff.1 h
  clear h
  induction hvalues with
  | nil => simp
  | cons hfv _ ih =>
    obtain ⟨hname, hvalue⟩ := hfv
    rw [List.forall_mem_cons] at hf ⊢
    exact ⟨⟨hname ▸ hf.1.1, written_ofRef ho hx hf.1.1 he hf.1.2 hvalue⟩, ih hf.2⟩

/-- **The expansions of sum types.** -/
theorem written_expand (ho : o.Named) (hm : m.Named) (h : Value.expand m o .standard name = .ok v) :
    Written o v := by
  refine ofSumType_induction written_nothing (fun s member expand vs hmember hx hvs => ?_) h
  obtain ⟨hget, -⟩ := TypeModel.member?_eq_some_iff.1 hmember
  -- the member is a record of the model, and its fields have names
  have hname := hm.members s member hget
  have hfields : ∀ f ∈ fieldsOf m member, IsName f.name ∧ f.type.Named := by
    intro f hf
    obtain ⟨r, hr, hf⟩ := mem_fieldsOf.1 hf
    exact (hm.records r (Catalogue.mem_values_iff.2 ⟨member, hr⟩)).2 f hf
  have hvalues := written_ofFields ho hx hname hfields hvs
  exact .member hname (fun f hf => (hvalues f hf).1) fun f hf => (hvalues f hf).2

end Fields

end Value

end GoFixtures
