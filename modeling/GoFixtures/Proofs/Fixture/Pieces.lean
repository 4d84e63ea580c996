import GoFixtures.Fixture.Options
import GoFixtures.Proofs.Go.Pieces

/-!
# Pieces of generated code

Generated code is made of fixed pieces and of names, some of them qualified. `Skims` says of a piece that the
lexer passes over it, and how many braces are open behind it; what the tokens are does not matter inside the
body of a function.

* `Skims.trans`: pieces one after the other.
* `Skims.fixed`, `Skims.separated`, `Skims.name`, `Skims.qualified`, `Skims.quoted`: fixed pieces, names, and
  names in quotes.
-/

namespace GoFixtures

open Go Go.Layout Go.TokenReader Text

/-- The lexer passes over what stands before `t` in `s`. With `n` braces open before it, `m` are open behind
it. -/
def Skims (s : List Char) (n : Nat) (t : List Char) (m : Nat) : Prop :=
  ∀ e, ∃ signs e', depth? .brace n (kinds signs) = some m ∧ Scans s e signs t e'

variable {s t u : List Char} {n m k : Nat} {items : List Item} {w : String} {e : Bool}

/-! ### What a piece stands before -/

/-- Options the names of which are names. -/
structure Options.Named (o : Options) : Prop where
  qualifier : o.qualifier.isEmpty ∨ IsName o.qualifier
  insertion : ∀ c ∈ o.insertion.toList, Lexeme.isNameCharacter c

theorem wellSpaced_qualify {o : Options} (ho : o.Named) (h : IsName w) (hw : Item.wellSpaced items (some 'a')) :
    Item.wellSpaced items ((o.qualify w).toList ++ s).head? := by
  unfold Options.qualify
  split
  · exact wellSpaced_name h hw
  · rename_i hq
    rw [String.toList_append, String.toList_append, List.append_assoc, List.append_assoc]
    exact wellSpaced_name (ho.qualifier.resolve_left hq) hw

/-- The characters that stand behind values. -/
def valueEnds : List Char := [')', '\x7d', ',', '\n']

/-- What a value stands before. -/
def EndsValue (s : List Char) : Prop := ∃ c ∈ valueEnds, s.head? = some c

theorem EndsValue.endsWord (h : EndsValue s) : EndsWord s := by
  have hends : ∀ c ∈ valueEnds, Lexeme.isNameCharacter c = false := List.all_iff_forall_prop.1 (by decide)
  obtain ⟨c, hc, hs⟩ := h
  rw [EndsWord, hs]
  exact hends c hc

theorem EndsValue.wellSpaced (h : EndsValue s) (hw : valueEnds.all fun c => Item.wellSpaced items (some c)) :
    Item.wellSpaced items s.head? := by
  obtain ⟨c, hc, hs⟩ := h
  rw [hs]
  exact List.all_eq_true.1 hw c hc

/-! ### Qualified names -/

/-- The signs of the name of a type. -/
def qualifiedSigns (o : Options) (name : String) : Signs :=
  if o.qualifier.isEmpty then [(.identifier, name)]
  else [(.identifier, o.qualifier), (.mark .dot, "."), (.identifier, name)]

theorem scans_qualified {o : Options} (ho : o.Named) (h : IsName w) (hs : EndsWord s) :
    Scans ((o.qualify w).toList ++ s) e (qualifiedSigns o w) s true := by
  unfold Options.qualify qualifiedSigns
  split
  · exact scans_name h hs
  · rename_i hq
    have hqualifier := ho.qualifier.resolve_left hq
    have hdot : Scans (".".toList ++ (w.toList ++ s)) true [(.mark .dot, ".")] (w.toList ++ s) false :=
      scans_fixed [.op "."] (by decide) (wellSpaced_name h (by decide))
    have hend : EndsWord (".".toList ++ (w.toList ++ s)) := rfl
    rw [String.toList_append, String.toList_append, List.append_assoc, List.append_assoc]
    exact (scans_name hqualifier hend).trans (hdot.trans (scans_name h hs))

/-! ### Pieces that are passed over -/

namespace Skims

protected theorem refl (s : List Char) (n : Nat) : Skims s n s n :=
  fun e => ⟨[], e, rfl, .refl s e⟩

protected theorem trans (h : Skims s n t m) (h' : Skims t m u k) : Skims s n u k := by
  intro e
  obtain ⟨signs, e', hd, hs⟩ := h e
  obtain ⟨signs', e'', hd', hs'⟩ := h' e'
  refine ⟨signs ++ signs', e'', ?_, hs.trans hs'⟩
  rw [kinds, List.map_append, depth?_append]
  simp only [kinds] at hd hd'
  rw [hd, Option.bind_some, hd']

/-- A fixed piece, given part by part. -/
theorem fixed {text : String} (items : List Item) (ht : text.toList = items.flatMap Item.text)
    (hw : Item.wellSpaced items s.head?) (hd : ∀ e, depth? .brace n (kinds (Item.signs e items)) = some m) :
    Skims (text.toList ++ s) n s m :=
  fun e => ⟨_, _, hd e, scans_fixed items ht hw⟩

/-- A fixed piece that can stand before everything. -/
theorem separated {text : String} (items : List Item) (ht : text.toList = items.flatMap Item.text)
    (hw : (items.getLast?.any Item.isSeparator && Item.wellSpaced items none) = true)
    (hd : ∀ e, depth? .brace n (kinds (Item.signs e items)) = some m) : Skims (text.toList ++ s) n s m :=
  fixed items ht (wellSpaced_separator hw) hd

theorem name (h : IsName w) (hs : EndsWord s) : Skims (w.toList ++ s) n s n :=
  fun _ => ⟨_, _, rfl, scans_name h hs⟩

theorem qualified {o : Options} (ho : o.Named) (h : IsName w) (hs : EndsWord s) :
    Skims ((o.qualify w).toList ++ s) n s n := by
  refine fun e => ⟨_, _, ?_, scans_qualified ho h hs⟩
  unfold qualifiedSigns
  split <;> rfl

/-- A string literal with the characters of names. -/
theorem quoted (h : ∀ c ∈ w.toList, Lexeme.isNameCharacter c) :
    Skims ((("\"" ++ w) ++ "\"").toList ++ s) n s n := by
  -- no character of a name ends the literal or escapes the next one
  have hbody : ∀ body : List Char, (∀ c ∈ body, Lexeme.isNameCharacter c) →
      Lexeme.quotedBody? '\x22' (body ++ ['\x22']) = some (body, []) := by
    have hend : ∀ c ∈ ['\x22', '\n', '\\'], Lexeme.isNameCharacter c = false :=
      List.all_iff_forall_prop.1 (by decide)
    intro body hb
    induction body with
    | nil => rfl
    | cons c body ih =>
      rw [List.forall_mem_cons] at hb
      have hc : c ∉ ['\x22', '\n', '\\'] := by
        intro hm
        simp [hend c hm] at hb
      simp only [List.mem_cons, List.not_mem_nil, or_false, not_or] at hc
      rw [List.cons_append, Lexeme.quotedBody?_cons hc.2.2, if_neg hc.1, if_neg hc.2.1, ih hb.2]
      rfl
  refine Skims.fixed [.lexeme (.string w.toList)] ?_ ?_ fun _ => rfl
  · simp [Item.text, Lexeme.text, String.toList_append]
  · simp [Item.wellSpaced, Lexeme.isValid, Lexeme.stops, hbody _ h]

end Skims

end GoFixtures
