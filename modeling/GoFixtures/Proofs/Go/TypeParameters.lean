import GoFixtures.Proofs.Go.Groups
import GoFixtures.Proofs.Go.Lookahead

/-!
# Array lengths and type parameters

Behind the name of a type declaration, square brackets hold the length of an array or type parameters. The
reader decides by the two tokens behind the bracket. It finds all type parameters; it takes a length for type
parameters just if a star stands behind the name that the length begins with.

* `IsConstant`: constant expressions.
* `IsTypeParameters`: lists of type parameters.
* `SourceFile.typeSpec_brackets`: what is read for each of them.
-/

namespace GoFixtures.Go

open TokenReader

/-- The operators with two operands. -/
def binaryOperators : List String :=
  ["||", "&&", "==", "!=", "<", "<=", ">", ">=", "+", "-", "|", "^", "*", "/", "%", "<<", ">>", "&", "&^"]

/-- The operators with one operand that constants may have. -/
def unaryOperators : List String := ["+", "-", "!", "^"]

/-- The sign of an operator. -/
def operatorSign (spelling : String) : Token.Kind × String := (.ofOperator spelling, spelling)

/-- The signs of a name, qualified or not. -/
inductive IsOperandName : Signs → Prop
  | name (n : String) : IsOperandName [(.identifier, n)]
  | qualified (p n : String) : IsOperandName [(.identifier, p), (.mark .dot, "."), (.identifier, n)]

/-- The signs of a constant expression. Between the parentheses of a call there may be any signs in which
square brackets are balanced. -/
inductive IsConstant : Signs → Prop
  | name {signs : Signs} (h : IsOperandName signs) : IsConstant signs
  | literal {k : Token.Kind} (v : String) (hk : k ∈ [.integer, .float, .imaginary, .rune, .string]) :
      IsConstant [(k, v)]
  | call {callee arguments : Signs} (hcallee : IsOperandName callee) (h : arguments.Balanced .square) :
      IsConstant (callee ++ arguments.inside .paren)
  | paren {signs : Signs} (h : IsConstant signs) : IsConstant (signs.inside .paren)
  | unary {op : String} {signs : Signs} (hop : op ∈ unaryOperators) (h : IsConstant signs) :
      IsConstant (operatorSign op :: signs)
  | binary {op : String} {left right : Signs} (hleft : IsConstant left) (hop : op ∈ binaryOperators)
      (hright : IsConstant right) :
      IsConstant (left ++ operatorSign op :: right)

/-- The tokens that a constraint begins with: the name of a type, an interface, or a tilde. -/
def StartsConstraint (k : Token.Kind) : Prop := k ∈ [.identifier, .keyword .interface, .mark .tilde]

/-- The signs of type parameters: names with commas between them, and a constraint, in which square brackets
are balanced. More type parameters may stand behind the constraint. -/
def IsTypeParameters (signs : Signs) : Prop :=
  ∃ (n : String) (names : List String) (k : Token.Kind) (v : String) (more : Signs),
    signs = (.identifier, n) ::
      ((names.flatMap fun m => [(.mark .comma, ","), (.identifier, m)]) ++ (k, v) :: more) ∧
    StartsConstraint k ∧ Signs.Balanced .square ((k, v) :: more)

variable {b : Bracket} {signs signs' : Signs} {k : Token.Kind} {v op : String}

/-! ### Square brackets are balanced -/

namespace Signs.Balanced

/-- Balanced lists may follow each other. -/
theorem append (h : signs.Balanced b) (h' : signs'.Balanced b) : Signs.Balanced b (signs ++ signs') := by
  unfold Balanced kinds at h h' ⊢
  rw [List.map_append, depth?_append, h]
  exact h'

theorem singleton (hend : k ≠ .endOfFile) (hopen : k ≠ .opening b) (hclose : k ≠ .closing b) :
    Signs.Balanced b [(k, v)] := by
  simp [Balanced, kinds, depth?, hend, hopen, hclose]

/-- A token that is no bracket of the kind may stand in front. -/
theorem cons (hend : k ≠ .endOfFile) (hopen : k ≠ .opening b) (hclose : k ≠ .closing b) (h : signs.Balanced b) :
    Signs.Balanced b ((k, v) :: signs) :=
  (singleton hend hopen hclose).append h

/-- Brackets of another kind may stand around. -/
theorem inside {b' : Bracket} (hb : b' ≠ b) (h : signs.Balanced b) : Signs.Balanced b (signs.inside b') := by
  have hopen : Token.Kind.opening b' ≠ .opening b := by simpa using hb
  have hclose : Token.Kind.closing b' ≠ .closing b := by simpa using hb
  exact .cons (by simp) hopen (by simp) (h.append (.singleton (by simp) (by simp) hclose))

end Signs.Balanced

/-- Operators between two operands are of three kinds. -/
theorem ofOperator_binary (h : op ∈ binaryOperators) :
    Token.Kind.ofOperator op = .operator ∨ Token.Kind.ofOperator op = .mark .pipe ∨
    Token.Kind.ofOperator op = .mark .star := by
  revert op
  decide

theorem ofOperator_unary (h : op ∈ unaryOperators) : Token.Kind.ofOperator op = .operator := by
  revert op
  decide

/-- Operands have no brackets open. -/
theorem IsOperandName.balanced (h : IsOperandName signs) : signs.Balanced .square := by
  cases h with
  | name n => exact .singleton (by simp) (by simp) (by simp)
  | qualified p n => rfl

/-- Constants have no brackets open. -/
theorem IsConstant.balanced (h : IsConstant signs) : signs.Balanced .square := by
  induction h with
  | name h => exact h.balanced
  | @literal k v hk =>
    simp only [List.mem_cons, List.not_mem_nil, or_false] at hk
    rcases hk with rfl | rfl | rfl | rfl | rfl <;> rfl
  | call hcallee h => exact hcallee.balanced.append (h.inside (by decide))
  | paren _ ih => exact ih.inside (by decide)
  | @unary op signs hop _ ih =>
    have hkind := ofOperator_unary hop
    exact .cons (by simp [hkind]) (by simp [hkind]) (by simp [hkind]) ih
  | @binary op left right _ hop _ ihleft ihright =>
    have hkind := ofOperator_binary hop
    refine ihleft.append (.cons ?_ ?_ ?_ ihright) <;> rcases hkind with hkind | hkind | hkind <;> simp [hkind]

/-! ### What stands behind the first name -/

theorem IsConstant.ne_nil (h : IsConstant signs) : signs ≠ [] := by
  cases h with
  | name h => cases h <;> simp
  | call hcallee _ => cases hcallee <;> simp
  | paren | unary | binary | literal => simp [Signs.inside]

theorem kind_of_second {x y x' y' : Token.Kind × String} (h : x :: y :: signs = x' :: y' :: signs') :
    y.1 = y'.1 :=
  congrArg Prod.fst (List.cons.inj (List.cons.inj h).2).1

/-- **Behind the first name of a constant expression**, no token may stand behind a type parameter as well,
but for a star. -/
theorem IsConstant.follower (h : IsConstant signs) {n v : String} {more : Signs}
    (hsigns : signs = (.identifier, n) :: (k, v) :: more)
    (hk : SourceFile.followsTypeParameter k) : k = .mark .star := by
  induction h generalizing n k v more with
  | name h =>
    cases h with
    | name m => simp at hsigns
    | qualified p m =>
      obtain rfl : .mark .dot = k := kind_of_second hsigns
      cases hk
  | literal v' hk' => simp at hsigns
  | @call callee arguments hcallee h =>
    cases hcallee with
    | name m =>
      obtain rfl : .opening .paren = k := kind_of_second hsigns
      cases hk
    | qualified p m =>
      obtain rfl : .mark .dot = k := kind_of_second hsigns
      cases hk
  | paren h ih => cases congrArg Prod.fst (List.cons.inj hsigns).1
  | @unary op signs hop h ih =>
    have hfirst : Token.Kind.ofOperator op = .identifier := congrArg Prod.fst (List.cons.inj hsigns).1
    rw [ofOperator_unary hop] at hfirst
    cases hfirst
  | @binary op left right hleft hop hright ihleft ihright =>
    match left with
    | [] => exact absurd rfl hleft.ne_nil
    | [x] =>
      obtain rfl : Token.Kind.ofOperator op = k := kind_of_second hsigns
      rcases ofOperator_binary hop with hkind | hkind | hkind
      · rw [hkind] at hk
        cases hk
      · rw [hkind] at hk
        cases hk
      · exact hkind
    | x :: y :: left =>
      obtain ⟨hfirst, hmore⟩ := List.cons.inj hsigns
      exact ihleft (by rw [hfirst, (List.cons.inj hmore).1]) hk

/-! ### Lists of type parameters -/

/-- Type parameters have no brackets open. -/
theorem IsTypeParameters.balanced (h : IsTypeParameters signs) : signs.Balanced .square := by
  obtain ⟨n, names, k, v, more, rfl, -, hconstraint⟩ := h
  have hnames : Signs.Balanced .square (names.flatMap fun m => [(.mark .comma, ","), (.identifier, m)]) := by
    induction names with
    | nil => rfl
    | cons m names ih => exact .cons (by simp) (by simp) (by simp) (.cons (by simp) (by simp) (by simp) ih)
  exact .cons (by simp) (by simp) (by simp) (hnames.append hconstraint)

/-- A comma stands behind the first type parameter, or its constraint. -/
theorem IsTypeParameters.follower (h : IsTypeParameters signs) :
    ∃ n k v more, signs = (.identifier, n) :: (k, v) :: more ∧ SourceFile.followsTypeParameter k := by
  obtain ⟨n, names, k, v, more, rfl, hstart, -⟩ := h
  cases names with
  | nil =>
    refine ⟨n, k, v, more, rfl, ?_⟩
    simp only [StartsConstraint, List.mem_cons, List.not_mem_nil, or_false] at hstart
    rcases hstart with rfl | rfl | rfl <;> rfl
  | cons m names => exact ⟨n, _, _, _, rfl, rfl⟩

/-! ### Type declarations -/

namespace SourceFile

variable {name bracket closer assign : Token} {inner after rest : List Token} {e : TypeExpr}

/-- The type of a declaration. -/
theorem specBehind_apply {isGeneric : Bool} (he : TypeExpr.reader after = .ok (e, rest)) :
    specBehind name isGeneric after = .ok (⟨name.value, e, name.position.line, isGeneric, false⟩, rest) := by
  have hassign : kindAt after 0 ≠ .mark .assign := by
    intro hk
    rcases TypeExpr.isStart_of_ofDepth he with hstart | hparen
    · rw [hk] at hstart
      cases hstart
    · rw [hk] at hparen
      cases hparen
  rw [specBehind, bind_apply, accept_of_ne hassign]
  simp only
  rw [bind_apply, he]
  rfl

/-- The type of an alias. -/
theorem specBehind_assign {isGeneric : Bool} (ha : assign.kind = .mark .assign)
    (he : TypeExpr.reader after = .ok (e, rest)) :
    specBehind name isGeneric (assign :: after) =
      .ok (⟨name.value, e, name.position.line, isGeneric, true⟩, rest) := by
  have hne : after ≠ [] := by
    rintro rfl
    cases he
  rw [specBehind, bind_apply, accept_apply ha hne]
  simp only
  rw [bind_apply, he]
  rfl

section Brackets

variable (hb : bracket.kind = .opening .square) (hinner : depth? .square 0 (inner.map Token.kind) = some 0)
  (hc : closer.kind = .closing .square)

include hb hinner hc

/-- The brackets behind the name are passed over as one group. -/
theorem skipGroup_brackets (us : List Token) :
    skipGroup .square (bracket :: (inner ++ closer :: us)) = .ok ((), us) := by
  have hsplit : bracket :: (inner ++ closer :: us) = bracket :: (inner ++ [closer]) ++ us := by simp
  rw [hsplit]
  exact skipGroup_append ⟨bracket, inner, closer, rfl, hb, hinner, hc⟩

/-- Type parameters are taken. -/
theorem specBody_generic (us : List Token) :
    specBody name true (bracket :: (inner ++ closer :: us)) = specBehind name true us := by
  have hgroup := skipGroup_brackets hb hinner hc us
  show (skipGroup .square >>= fun _ => specBehind name true) _ = _
  rw [bind_apply, hgroup]

/-- A length is taken for what it is if the reader does not look for type parameters. -/
theorem specBody_array (hfirst : kindAt inner 0 = .identifier) (he : TypeExpr.reader after = .ok (e, rest)) :
    specBody name false (bracket :: (inner ++ closer :: after)) =
      .ok (⟨name.value, .array e, name.position.line, false, false⟩, rest) := by
  have hgroup := skipGroup_brackets hb hinner hc after
  have hne : after ≠ [] := by
    rintro rfl
    cases he
  have hclose : kindAt (bracket :: (inner ++ closer :: after)) 1 ≠ .closing .square := by
    cases inner with
    | nil => cases hfirst
    | cons x inner =>
      rw [show kindAt (bracket :: (x :: inner ++ closer :: after)) 1 = x.kind from rfl, show x.kind =
        .identifier from hfirst]
      decide
  have hdepth : TypeExpr.ofDepth (inner ++ closer :: after).length after = .ok (e, rest) := by
    have hle : after.length ≤ (inner ++ closer :: after).length := by
      simp only [List.length_append, List.length_cons]
      omega
    exact (TypeExpr.alike_ofDepth hne le_rfl hle).same he
  have hreader : TypeExpr.reader (bracket :: (inner ++ closer :: after)) = .ok (.array e, rest) := by
    show TypeExpr.ofDepth ((inner ++ closer :: after).length + 1) _ = _
    rw [TypeExpr.ofDepth_square hb, if_neg hclose, bind_apply, hgroup]
    simp only
    rw [bind_apply, hdepth]
    rfl
  exact specBehind_apply hreader

end Brackets

/-- Behind a bracket and a name, the next token decides. -/
theorem typeSpec_apply {us : List Token} (hname : name.kind = .identifier) (hb : bracket.kind = .opening .square)
    (hfirst : kindAt us 0 = .identifier) :
    typeSpec (name :: bracket :: us) = specBody name (followsTypeParameter (kindAt us 1)) (bracket :: us) := by
  have hlook : atTypeParameters (bracket :: us) = .ok (followsTypeParameter (kindAt us 1), bracket :: us) := by
    have hsquare : kindAt (bracket :: us) 0 = .opening .square := hb
    have hsecond : kindAt (bracket :: us) 1 = .identifier := hfirst
    rw [atTypeParameters, hsquare, hsecond, decide_eq_true rfl, decide_eq_true rfl]
    rfl
  rw [typeSpec_eq, bind_apply, expect_apply hname (List.cons_ne_nil bracket us)]
  simp only
  rw [bind_apply, hlook]

/-- What stands behind the name that a length begins with. -/
theorem followsTypeParameter_length (h : IsConstant (inner.map Token.sign))
    (hfirst : kindAt inner 0 = .identifier)
    (hc : closer.kind = .closing .square) :
    followsTypeParameter (kindAt (inner ++ closer :: after) 1) = decide (kindAt inner 1 = .mark .star) := by
  match inner with
  | [] => cases hfirst
  | [x] =>
    rw [show kindAt ([x] ++ closer :: after) 1 = closer.kind from rfl, hc]
    rfl
  | x :: y :: more =>
    have hx : x.kind = .identifier := hfirst
    have hsigns : (x :: y :: more).map Token.sign = (.identifier, x.value) :: (y.kind, y.value) ::
        more.map Token.sign := by
      rw [List.map_cons, List.map_cons, Token.sign, Token.sign, hx]
    rw [show kindAt (x :: y :: more ++ closer :: after) 1 = y.kind from rfl, show kindAt (x :: y :: more) 1 =
      y.kind from rfl]
    by_cases hstar : y.kind = .mark .star
    · rw [hstar]
      rfl
    · rw [decide_eq_false hstar, Bool.eq_false_iff]
      exact fun hk => hstar (h.follower hsigns hk)

/-- **Square brackets behind the name of a type declaration.** With a constant expression between them that
begins with a name, the type is an array; only if a star stands behind that name they are taken for type
parameters. Type parameters are always found. -/
theorem typeSpec_brackets (hname : name.kind = .identifier) (hb : bracket.kind = .opening .square)
    (hc : closer.kind = .closing .square)
    (he : TypeExpr.reader after = .ok (e, rest)) :
    (IsConstant (inner.map Token.sign) → kindAt inner 0 = .identifier →
      typeSpec (name :: bracket :: (inner ++ closer :: after)) =
      .ok (if kindAt inner 1 = .mark .star then ⟨name.value, e, name.position.line, true, false⟩
        else ⟨name.value, .array e, name.position.line, false, false⟩, rest)) ∧
    (IsTypeParameters (inner.map Token.sign) →
      typeSpec (name :: bracket :: (inner ++ closer :: after)) =
        .ok (⟨name.value, e, name.position.line, true, false⟩, rest) ∧
      ∀ assign, assign.kind = .mark .assign → typeSpec (name :: bracket :: (inner ++ closer :: assign :: after)) =
        .ok (⟨name.value, e, name.position.line, true, true⟩, rest)) := by
  constructor
  · intro h hfirst
    have hinner : depth? .square 0 (inner.map Token.kind) = some 0 := by
      rw [map_kind_of_sign rfl]
      exact h.balanced
    have hstart : kindAt (inner ++ closer :: after) 0 = .identifier := by
      cases inner with
      | nil => cases hfirst
      | cons x inner => exact hfirst
    rw [typeSpec_apply hname hb hstart, followsTypeParameter_length h hfirst hc]
    by_cases hstar : kindAt inner 1 = .mark .star
    · rw [decide_eq_true hstar, if_pos hstar, specBody_generic hb hinner hc]
      exact specBehind_apply he
    · rw [decide_eq_false hstar, if_neg hstar]
      exact specBody_array hb hinner hc hfirst he
  · intro h
    have hinner : depth? .square 0 (inner.map Token.kind) = some 0 := by
      rw [map_kind_of_sign rfl]
      exact h.balanced
    obtain ⟨n, k, v, more, hsigns, hk⟩ := h.follower
    have hlook (us : List Token) : typeSpec (name :: bracket :: (inner ++ closer :: us)) =
        specBehind name true us := by
      have hstart : kindAt (inner ++ closer :: us) 0 = .identifier := kindAt_append hsigns rfl
      have hfollower : kindAt (inner ++ closer :: us) 1 = k := kindAt_append hsigns rfl
      rw [typeSpec_apply hname hb hstart, hfollower, hk, specBody_generic hb hinner hc]
    refine ⟨?_, fun assign ha => ?_⟩
    · rw [hlook]
      exact specBehind_apply he
    · rw [hlook]
      exact specBehind_assign ha he

/-- A type expression of one name, at the end of the file. -/
def byteTokens : List Token := [⟨.identifier, "byte", ⟨1, 20⟩⟩, .finish ⟨1, 24⟩]

/-- A length: `pkg.N*len(x)`. -/
def areaTokens : List Token :=
  [⟨.identifier, "pkg", ⟨1, 8⟩⟩, ⟨.mark .dot, ".", ⟨1, 11⟩⟩, ⟨.identifier, "N", ⟨1, 12⟩⟩,
    ⟨.mark .star, "*", ⟨1, 13⟩⟩,
    ⟨.identifier, "len", ⟨1, 14⟩⟩, ⟨.opening .paren, "(", ⟨1, 17⟩⟩, ⟨.identifier, "x", ⟨1, 18⟩⟩,
      ⟨.closing .paren, ")", ⟨1, 19⟩⟩]

/-- Type parameters: `K, V any`. -/
def pairTokens : List Token :=
  [⟨.identifier, "K", ⟨1, 8⟩⟩, ⟨.mark .comma, ",", ⟨1, 9⟩⟩, ⟨.identifier, "V", ⟨1, 11⟩⟩,
    ⟨.identifier, "any", ⟨1, 13⟩⟩]

/-- The declaration of `T` with the tokens between square brackets, and of bytes behind them. -/
def bracketSpec (inner : List Token) : List Token :=
  ⟨.identifier, "T", ⟨1, 6⟩⟩ :: ⟨.opening .square, "[", ⟨1, 7⟩⟩ ::
    (inner ++ ⟨.closing .square, "]", ⟨1, 19⟩⟩ :: byteTokens)

theorem reader_byteTokens : TypeExpr.reader byteTokens = .ok (.name "byte", [.finish ⟨1, 24⟩]) := rfl

/-- A product of constants and a pair of parameters, each behind a name. -/
theorem typeSpec_brackets_area : IsConstant (areaTokens.map Token.sign) ∧
    IsTypeParameters (pairTokens.map Token.sign) ∧
    typeSpec (bracketSpec areaTokens) = .ok (⟨"T", .array (.name "byte"), 1, false, false⟩, [.finish ⟨1, 24⟩]) ∧
    typeSpec (bracketSpec pairTokens) = .ok (⟨"T", .name "byte", 1, true, false⟩, [.finish ⟨1, 24⟩]) := by
  have harea : IsConstant ([(.identifier, "pkg"), (.mark .dot, "."), (.identifier, "N")] ++ operatorSign "*" ::
      ([(.identifier, "len")] ++ Signs.inside .paren [(.identifier, "x")])) :=
    .binary (.name (.qualified "pkg" "N")) (by decide) (.call (.name "len") rfl)
  have hpair : IsTypeParameters (pairTokens.map Token.sign) :=
    ⟨"K", ["V"], .identifier, "any", [], rfl, List.mem_cons_self, rfl⟩
  refine ⟨harea, hpair, ?_, ?_⟩
  · exact (typeSpec_brackets rfl rfl rfl reader_byteTokens).1 harea rfl
  · exact ((typeSpec_brackets rfl rfl rfl reader_byteTokens).2 hpair).1

/-- A length that is taken for a type parameter: `N*2`. -/
def doubleTokens : List Token :=
  [⟨.identifier, "N", ⟨1, 8⟩⟩, ⟨.mark .star, "*", ⟨1, 9⟩⟩, ⟨.integer, "2", ⟨1, 10⟩⟩]

/-- An array may be taken for a declaration with type parameters. -/
theorem exists_length_generic : IsConstant (doubleTokens.map Token.sign) ∧ kindAt doubleTokens 0 = .identifier ∧
    typeSpec (bracketSpec doubleTokens) = .ok (⟨"T", .name "byte", 1, true, false⟩, [.finish ⟨1, 24⟩]) := by
  have hdouble : IsConstant ([(.identifier, "N")] ++ operatorSign "*" :: [(.integer, "2")]) :=
    .binary (.name (.name "N")) (by decide) (.literal "2" (by decide))
  exact ⟨hdouble, rfl, rfl⟩

end SourceFile

end GoFixtures.Go
