import GoFixtures.Proofs.Go.Names

/-!
# Pieces of written code

Written code is made of fixed pieces and of names. A fixed piece is given part by part, and what stands behind
it matters only by its first character.

* `scans_fixed`, `scans_name`: the tokens of a fixed piece and of a name.
* `Token.IsIdentifier`: a text that is one token, a name.
-/

namespace GoFixtures.Go

open Layout Text

namespace Layout.Item

/-! Short forms for the parts of fixed pieces. -/

/-- A word. -/
def word (s : String) : Item := lexeme (.word s.toList)

/-- An operator. -/
def op (s : String) : Item := lexeme (.operator s)

/-- A space. -/
def space : Item := blank ' '

/-- A number. -/
def number (s : String) : Item := lexeme (.number .integer s.toList)

/-- A tab. -/
def tab : Item := blank '\t'

end Layout.Item

variable {s : List Char} {items : List Item} {w : String} {e : Bool}

/-! ### What a piece stands before -/

/-- What a name does not go on with. -/
def EndsWord (s : List Char) : Prop := s.head?.any Lexeme.isNameCharacter = false

theorem Layout.Item.wellSpaced_congr {c c' : Option Char} (h : ∀ x : Lexeme, x.stops c = x.stops c') :
    Item.wellSpaced items c = Item.wellSpaced items c' := by
  induction items with
  | nil => rfl
  | cons item items ih =>
    cases item with
    | blank => rw [Item.wellSpaced, Item.wellSpaced, ih]
    | lineEnd => rw [Item.wellSpaced, Item.wellSpaced, ih]
    | lexeme x =>
      rw [Item.wellSpaced, Item.wellSpaced, ih]
      cases (items.flatMap Item.text).head? with
      | none => rw [Option.none_or, Option.none_or, h]
      | some d => rfl

/-- The operators that go on with nothing. -/
def separators : List String := ["(", ")", "[", "]", "\x7b", "\x7d", ","]

/-- Whether the part is such an operator. -/
def Layout.Item.isSeparator : Item → Bool
  | lexeme (.operator op) => separators.contains op
  | _ => false

theorem Layout.Item.wellSpaced_append {items' : List Item} {c : Option Char} :
    Item.wellSpaced (items ++ items') c =
    (Item.wellSpaced items ((items'.flatMap Item.text).head?.or c) && Item.wellSpaced items' c) := by
  induction items with
  | nil => rfl
  | cons item items ih =>
    cases item with
    | blank => rw [List.cons_append, Item.wellSpaced, Item.wellSpaced, ih, Bool.and_assoc]
    | lineEnd => rw [List.cons_append, Item.wellSpaced, Item.wellSpaced, ih]
    | lexeme x =>
      rw [List.cons_append, Item.wellSpaced, Item.wellSpaced, ih, List.flatMap_append, List.head?_append,
        Option.or_assoc,
        Bool.and_assoc _ _ (Item.wellSpaced items' c)]

theorem stops_separator {c : Option Char} : ∀ op ∈ separators, (Lexeme.operator op).stops c := by
  intro op hop
  simp only [separators, List.mem_cons, List.not_mem_nil, or_false] at hop
  rcases hop with rfl | rfl | rfl | rfl | rfl | rfl | rfl <;> cases c <;> rfl

/-- What ends with a separator can stand before everything. -/
theorem wellSpaced_separator {c : Option Char}
    (h : (items.getLast?.any Item.isSeparator && Item.wellSpaced items none) = true) :
    Item.wellSpaced items c := by
  rw [Bool.and_eq_true] at h
  obtain ⟨hlast, hw⟩ := h
  obtain ⟨item, hitem, hseparator⟩ := (Option.any_eq_true _ _).1 hlast
  obtain ⟨init, rfl⟩ := List.getLast?_eq_some_iff.1 hitem
  match item with
  | .lexeme (.operator op) =>
    have hop : op ∈ separators := List.contains_iff_mem.1 hseparator
    -- what stands before the separator sees only that
    obtain ⟨d, hd⟩ : ∃ d, op.toList.head? = some d :=
      Option.isSome_iff_exists.1 ((by decide : ∀ op ∈ separators, op.toList.head?.isSome) op hop)
    simp only [Item.wellSpaced_append, List.flatMap_singleton, Item.text, Lexeme.text, hd, Option.some_or,
      Item.wellSpaced,
      Bool.and_eq_true] at hw ⊢
    exact ⟨hw.1, ⟨hw.2.1.1, stops_separator op hop⟩, hw.2.2⟩

/-- What can stand before one name can stand before every name. -/
theorem wellSpaced_name (h : IsName w) (hw : Item.wellSpaced items (some 'a')) :
    Item.wellSpaced items (w.toList ++ s).head? := by
  have hvalid := h.1
  cases hname : w.toList with
  | nil => simp [hname, Lexeme.isValid] at hvalid
  | cons c cs =>
    simp only [hname, Lexeme.isValid, Bool.and_eq_true, Bool.not_eq_true'] at hvalid
    rw [List.cons_append, List.head?_cons, Item.wellSpaced_congr fun x => ?_]
    · exact hw
    · exact x.stops_eq_of_isNameStart hvalid.1.1 hvalid.1.2 (by decide) (by decide)

/-! ### Fixed pieces and names -/

/-- A fixed piece, given part by part. -/
theorem scans_fixed {text : String} (items : List Item) (ht : text.toList = items.flatMap Item.text)
    (hw : Item.wellSpaced items s.head?) :
    Scans (text.toList ++ s) e (Item.signs e items) s (Item.endsAfter e items) := by
  rw [ht]
  exact Scans.items hw

/-- A fixed piece that ends with a bracket can stand before everything. -/
theorem scans_bracket {text : String} (items : List Item) (ht : text.toList = items.flatMap Item.text)
    (hw : (items.getLast?.any Item.isSeparator && Item.wellSpaced items none) = true) :
    Scans (text.toList ++ s) e (Item.signs e items) s (Item.endsAfter e items) :=
  scans_fixed items ht (wellSpaced_separator hw)

theorem scans_name (h : IsName w) (hs : EndsWord s) :
    Scans (w.toList ++ s) e [(.identifier, w)] s true := by
  have hw : Item.wellSpaced [.lexeme (.word w.toList)] s.head? := by
    have hstops : (Lexeme.word w.toList).stops s.head? := by
      rw [Lexeme.stops, hs]
      rfl
    simp [Item.wellSpaced, h.1, hstops]
  have hscan := Scans.items (e := e) hw
  have hvalue : (Lexeme.word w.toList).value = w := String.ofList_toList
  simpa [Item.signs, Item.endsAfter, Item.text, Lexeme.text, h.2, hvalue, Token.Kind.endsLine] using hscan

/-- A text that is one token, a name. -/
def Token.IsIdentifier (source : String) : Prop :=
  ∃ p q r, Token.scan source = .ok [⟨.identifier, source, p⟩, .impliedSemicolon q, .finish r]

theorem Token.isIdentifier_iff : Token.IsIdentifier w ↔ IsName w := by
  constructor
  · rintro ⟨p, q, r, h⟩
    exact Token.named_scan h _ List.mem_cons_self rfl
  · intro h
    have hscan := scans_name (s := []) (e := false) h rfl
    rw [List.append_nil] at hscan
    obtain ⟨ts, hts, hsigns⟩ := hscan.finish .start
    match ts, hsigns with
    | [⟨_, _, p⟩, ⟨_, _, q⟩, ⟨_, _, r⟩], rfl => exact ⟨p, q, r, hts⟩

end GoFixtures.Go
