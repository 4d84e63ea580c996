import GoFixtures.Go.Layout
import GoFixtures.Proofs.Go.Lexeme
import GoFixtures.Proofs.Outcome

/-!
# Tokens, piece by piece

The tokens of a text come one after the other: those of a first piece, then those of the rest, which only has
to know whether the token before it can end a line. `Layout.Scans` says so of two texts, one the rest of the
other.

* `Layout.pieces_induction`: a text is empty, or begins with a piece, or with none.
* `Layout.tokens_gap`: a part of a gap gives at most a semicolon.
* `Layout.tokens_lexeme`: a lexeme gives its token.
* `Layout.tokens_nil`, `Layout.tokens_fault`: the end, and a fault.
* `Layout.Reaches.exists_scan`: a token is a lexeme at a place where a reader comes, or it is not written.
* `Layout.Scans.trans`: pieces make up longer ones.
-/

namespace GoFixtures.Go

namespace Token

/-- What a token is, without its place. -/
def sign (t : Token) : Kind × String := (t.kind, t.value)

/-- The sign of a semicolon that a line end stands for. -/
def lineSign : Kind × String := (.mark .semicolon, lineEnd)

end Token

namespace Layout

variable {p : Position} {e e' : Bool} {s t : List Char} {g : Gap} {c : Char} {x : Lexeme}

/-! ### The first piece of a text -/

theorem ofText_finish (h : Gap.scan s = (g, [])) : ofText s = finish g := by
  rw [ofText]
  split
  · rw [h]
  · rename_i heq
    exact absurd (heq.symm.trans (congrArg Prod.snd h)) (List.cons_ne_nil _ _)

theorem ofText_fault {cause : Lexeme.Fault} (h : Gap.scan s = (g, c :: t)) (hx : Lexeme.scan c t = .error cause) :
    ofText s = fault g cause (c :: t) := by
  rw [ofText]
  split
  · rename_i heq
    exact absurd ((congrArg Prod.snd h).symm.trans heq) (List.cons_ne_nil _ _)
  · rename_i heq
    obtain ⟨rfl, rfl⟩ := List.cons.inj (heq.symm.trans (congrArg Prod.snd h))
    split
    · rename_i herror
      rw [h, Except.error.inj (herror.symm.trans hx)]
    · rename_i hok
      cases hok.symm.trans hx

theorem ofText_lexeme {rest : List Char} (h : Gap.scan s = (g, c :: t)) (hx : Lexeme.scan c t = .ok (x, rest)) :
    ofText s = lexeme g x (ofText rest) := by
  rw [ofText]
  split
  · rename_i heq
    exact absurd ((congrArg Prod.snd h).symm.trans heq) (List.cons_ne_nil _ _)
  · rename_i heq
    obtain ⟨rfl, rfl⟩ := List.cons.inj (heq.symm.trans (congrArg Prod.snd h))
    split
    · rename_i herror
      cases herror.symm.trans hx
    · rename_i hok
      obtain ⟨rfl, rfl⟩ := Prod.mk.inj (Except.ok.inj (hok.symm.trans hx))
      exact congrArg (lexeme · _ _) (congrArg Prod.fst h)

/-- A layout with one more part of a gap before it. -/
def prepend (piece : Gap.Piece) : Layout → Layout
  | finish gap => finish (piece :: gap)
  | fault gap cause rest => fault (piece :: gap) cause rest
  | lexeme gap x next => lexeme (piece :: gap) x next

theorem ofText_gap {piece : Gap.Piece} (h : Gap.piece? s = some (piece, t)) :
    ofText s = (ofText t).prepend piece := by
  -- the gap before the first lexeme has one more part
  have hs : Gap.scan s = (piece :: (Gap.scan t).1, (Gap.scan t).2) := by
    rw [Gap.scan]
    split <;> simp_all
  rcases hg : Gap.scan t with ⟨gap, _ | ⟨c, rest⟩⟩
  · rw [hg] at hs
    rw [ofText_finish hs, ofText_finish hg]
    rfl
  · rw [hg] at hs
    cases hx : Lexeme.scan c rest with
    | error cause => rw [ofText_fault hs hx, ofText_fault hg hx]; rfl
    | ok r => rw [ofText_lexeme hs hx, ofText_lexeme hg hx]; rfl

theorem gapScan_of_piece? (h : Gap.piece? s = none) : Gap.scan s = ([], s) := by
  rw [Gap.scan]
  split <;> simp_all

/-- **Piece by piece.** A text is empty, or it begins with a part of a gap, with a lexeme, or with neither. -/
theorem pieces_induction {motive : List Char → Prop} (nil : motive [])
    (gap : ∀ {s t piece}, Gap.piece? s = some (piece, t) → motive t → motive s)
    (lexeme : ∀ {c s x t}, Gap.piece? (c :: s) = none → Lexeme.scan c s = .ok (x, t) → motive t → motive (c :: s))
    (fault : ∀ {c s cause}, Gap.piece? (c :: s) = none → Lexeme.scan c s = .error cause → motive (c :: s)) :
    ∀ s, motive s := by
  intro s
  induction hn : s.length using Nat.strongRecOn generalizing s with
  | _ n ih =>
  cases hp : Gap.piece? s with
  | some r =>
    have hlt := Gap.piece?_length hp
    exact gap hp (ih _ (by omega) _ rfl)
  | none =>
    cases s with
    | nil => exact nil
    | cons c s =>
      cases hx : Lexeme.scan c s with
      | error cause => exact fault hp hx
      | ok r =>
        have hle := Lexeme.scan_length hx
        rw [List.length_cons] at hn
        exact lexeme hp hx (ih _ (by omega) _ rfl)

/-! ### Its tokens -/

/-- **The end.** It gives a semicolon behind a token that can end a line. -/
theorem tokens_nil : (ofText []).tokens p e = .ok ((if e then [.impliedSemicolon p] else []) ++ [.finish p]) := by
  rw [ofText_finish (gapScan_of_piece? rfl), tokens]
  rfl

/-- **A part of a gap.** It gives a semicolon if it ends a line behind a token that can. -/
theorem tokens_gap {piece : Gap.Piece} (h : Gap.piece? s = some (piece, t)) :
    (ofText s).tokens p e =
      ((ofText t).tokens (p.after piece.text) (e && !piece.endsLine)).map
        ((if e && piece.endsLine then [.impliedSemicolon p] else []) ++ ·) := by
  rw [ofText_gap h]
  cases hl : piece.endsLine <;> cases e <;> cases hr : ofText t <;>
    simp [prepend, tokens, semicolons, Gap.lineEnd?, hl, Position.after_append, Except.map] <;>
    split <;> simp_all

/-- **A lexeme.** It gives its token, and what follows is behind that token. -/
theorem tokens_lexeme (hg : Gap.piece? (c :: s) = none) (hx : Lexeme.scan c s = .ok (x, t)) :
    (ofText (c :: s)).tokens p e =
      ((ofText t).tokens (p.after x.text) x.kind.endsLine).map (x.token p :: ·) := by
  rw [ofText_lexeme (gapScan_of_piece? hg) hx, tokens]
  cases e <;> simp [semicolons, Gap.lineEnd?, Except.map] <;> split <;> simp_all

/-- **A fault.** It keeps the text from having tokens. -/
theorem tokens_fault {cause : Lexeme.Fault} (hg : Gap.piece? (c :: s) = none)
    (hx : Lexeme.scan c s = .error cause) :
    (ofText (c :: s)).tokens p e = .error ⟨cause, p⟩ := by
  rw [ofText_fault (gapScan_of_piece? hg) hx]
  rfl

/-! ### Where a reader comes -/

/-- Reading a text piece by piece, one comes to a place where the text goes on as said. -/
inductive Reaches (source : String) : Position → List Char → Prop
  | start : Reaches source .start source.toList
  | gap {p : Position} {s t : List Char} {piece : Gap.Piece} (h : Reaches source p s)
      (hp : Gap.piece? s = some (piece, t)) :
      Reaches source (p.after piece.text) t
  | lexeme {p : Position} {c : Char} {s t : List Char} {x : Lexeme} (h : Reaches source p (c :: s))
      (hg : Gap.piece? (c :: s) = none)
      (hx : Lexeme.scan c s = .ok (x, t)) : Reaches source (p.after x.text) t

/-- What a text comes to, it comes to by what is left at each place. -/
theorem Reaches.scan_eq {source : String} (h : Reaches source p s) :
    ∃ ts e, Token.scan source = ((ofText s).tokens p e).map (ts ++ ·) := by
  induction h with
  | start =>
    refine ⟨[], false, ?_⟩
    rw [Token.scan]
    cases (ofText source.toList).tokens .start false <;> rfl
  | @gap p s t piece _ hp ih =>
    obtain ⟨ts, e, hscan⟩ := ih
    refine ⟨ts ++ (if e && piece.endsLine then [.impliedSemicolon p] else []), e && !piece.endsLine, ?_⟩
    rw [hscan, tokens_gap hp, map_map]
    simp only [List.append_assoc]
  | @lexeme p c s t x _ hg hx ih =>
    obtain ⟨ts, e, hscan⟩ := ih
    refine ⟨ts ++ [x.token p], x.kind.endsLine, ?_⟩
    rw [hscan, tokens_lexeme hg hx, map_map]
    simp only [List.append_assoc, List.singleton_append]

/-- A token is a lexeme where the reader comes, or it is not written. -/
theorem Reaches.exists_scan {source : String} {ts : List Token} (h : Reaches source p s)
    (hts : (ofText s).tokens p e = .ok ts)
    {t : Token} (ht : t ∈ ts) :
    t.kind = .mark .semicolon ∨ t.kind = .endOfFile ∨ ∃ c u x rest, Reaches source t.position (c :: u) ∧
      Lexeme.scan c u = .ok (x, rest) ∧ t = x.token t.position := by
  induction s using pieces_induction generalizing p e ts with
  | nil =>
    rw [tokens_nil] at hts
    obtain rfl := Except.ok.inj hts
    rcases List.mem_append.1 ht with ht | ht
    · cases e with
      | false => cases ht
      | true => exact .inl (by rw [List.mem_singleton.1 ht]; rfl)
    · exact .inr (.inl (by rw [List.mem_singleton.1 ht]; rfl))
  | gap hp ih =>
    rw [tokens_gap hp] at hts
    obtain ⟨us, hus, rfl⟩ := map_eq_ok_iff.1 hts
    rcases List.mem_append.1 ht with ht | ht
    · split at ht
      · exact .inl (by rw [List.mem_singleton.1 ht]; rfl)
      · cases ht
    · exact ih (h.gap hp) hus ht
  | @lexeme c s x rest hg hx ih =>
    rw [tokens_lexeme hg hx] at hts
    obtain ⟨us, hus, rfl⟩ := map_eq_ok_iff.1 hts
    rcases List.mem_cons.1 ht with rfl | ht
    · exact .inr (.inr ⟨c, s, x, rest, h, hx, rfl⟩)
    · exact ih (h.lexeme hg hx) hus ht
  | fault hg hx =>
    rw [tokens_fault hg hx] at hts
    cases hts

/-! ### Texts and what is left of them -/

/-- Behind a token that can end a line or not, the text `s` gives tokens with the given signs, and then goes
on as `t`. -/
def Scans (s : List Char) (e : Bool) (signs : List (Token.Kind × String)) (t : List Char) (e' : Bool) : Prop :=
  ∀ p, ∃ ts q, ts.map Token.sign = signs ∧ (ofText s).tokens p e = ((ofText t).tokens q e').map (ts ++ ·)

namespace Scans

variable {u : List Char} {e'' : Bool} {signs signs' : List (Token.Kind × String)}

protected theorem refl (s : List Char) (e : Bool) : Scans s e [] s e := by
  intro p
  refine ⟨[], p, rfl, ?_⟩
  cases (ofText s).tokens p e <;> rfl

/-- Pieces make up longer ones. -/
protected theorem trans (h : Scans s e signs t e') (h' : Scans t e' signs' u e'') :
    Scans s e (signs ++ signs') u e'' := by
  intro p
  obtain ⟨ts, q, rfl, hts⟩ := h p
  obtain ⟨us, r, rfl, hus⟩ := h' q
  refine ⟨ts ++ us, r, List.map_append, ?_⟩
  rw [hts, hus]
  cases (ofText u).tokens r e'' <;> simp [Except.map]

theorem gap {piece : Gap.Piece} (h : Gap.piece? s = some (piece, t)) :
    Scans s e (if e && piece.endsLine then [Token.lineSign] else []) t (e && !piece.endsLine) := by
  intro p
  refine ⟨if e && piece.endsLine then [.impliedSemicolon p] else [], p.after piece.text, ?_, tokens_gap h⟩
  split <;> rfl

theorem blank (hc : Gap.isBlank c) : Scans (c :: s) e [] s e := by
  have hp : Gap.piece? (c :: s) = some (.blank c, s) := by
    simp only [Gap.isBlank, Bool.or_eq_true, decide_eq_true_eq] at hc
    rcases hc with (rfl | rfl) | rfl <;> rfl
  have h := @Scans.gap e _ _ _ hp
  simpa [Gap.Piece.endsLine] using h

theorem lineEnd (s : List Char) (e : Bool) :
    Scans ('\n' :: s) e (if e then [Token.lineSign] else []) s false := by
  have h := @Scans.gap e ('\n' :: s) s .newline rfl
  simpa [Gap.Piece.endsLine] using h

theorem lexeme (hg : Gap.piece? (c :: s) = none) (hx : Lexeme.scan c s = .ok (x, t)) :
    Scans (c :: s) e [(x.kind, x.value)] t x.kind.endsLine := by
  intro p
  exact ⟨[x.token p], p.after x.text, rfl, tokens_lexeme hg hx⟩

/-- What a text gives up to its end. -/
theorem finish (h : Scans s e signs [] e') :
    ∀ p, ∃ ts, (ofText s).tokens p e = .ok ts ∧
      ts.map Token.sign = signs ++ (if e' then [Token.lineSign] else []) ++ [(.endOfFile, "")] := by
  intro p
  obtain ⟨ts, q, rfl, hts⟩ := h p
  rw [tokens_nil] at hts
  refine ⟨_, hts, ?_⟩
  rw [List.map_append, List.append_assoc]
  cases e' <;> rfl

end Scans

/-! ### Texts that are written as lexemes -/

/-- A part of a text that is written: space, a line end or a lexeme. -/
inductive Item
  | blank (c : Char)
  | lineEnd
  | lexeme (x : Lexeme)

namespace Item

/-- The part as it is written. -/
def text : Item → List Char
  | blank c => [c]
  | lineEnd => ['\n']
  | lexeme x => x.text

/-- The signs of the tokens that the parts give behind a token that can end a line or not. -/
def signs : Bool → List Item → List (Token.Kind × String)
  | _, [] => []
  | e, blank _ :: items => signs e items
  | e, lineEnd :: items => (if e then [Token.lineSign] else []) ++ signs false items
  | _, lexeme x :: items => (x.kind, x.value) :: signs x.kind.endsLine items

/-- Whether the last of the tokens can end a line. -/
def endsAfter : Bool → List Item → Bool
  | e, [] => e
  | e, blank _ :: items => endsAfter e items
  | _, lineEnd :: items => endsAfter false items
  | _, lexeme x :: items => endsAfter x.kind.endsLine items

/-- Whether each lexeme has the form of its kind and ends before what follows it, in the end before `next`. -/
def wellSpaced : List Item → Option Char → Bool
  | [], _ => true
  | blank c :: items, next => Gap.isBlank c && wellSpaced items next
  | lineEnd :: items, next => wellSpaced items next
  | lexeme x :: items, next =>
    x.isValid && x.stops ((items.flatMap text).head?.or next) && wellSpaced items next

end Item

/-- **What is written as lexemes is read as these lexemes**, if they are well spaced. -/
theorem Scans.items {items : List Item} (h : Item.wellSpaced items s.head?) :
    Scans (items.flatMap Item.text ++ s) e (Item.signs e items) s (Item.endsAfter e items) := by
  induction items generalizing e with
  | nil => exact .refl s e
  | cons item items ih =>
    rw [List.flatMap_cons, List.append_assoc]
    cases item with
    | blank c =>
      simp only [Item.wellSpaced, Bool.and_eq_true] at h
      exact (Scans.blank h.1).trans (ih h.2)
    | lineEnd => exact (Scans.lineEnd _ e).trans (ih h)
    | lexeme x =>
      simp only [Item.wellSpaced, Bool.and_eq_true] at h
      obtain ⟨c, cs, htext, hg, hx⟩ := @Lexeme.scan_append (items.flatMap Item.text ++ s) x h.1.1
        (by rw [List.head?_append]; exact h.1.2)
      have hscan := (Scans.lexeme (e := e) hg hx).trans (ih h.2)
      rw [← List.cons_append, ← htext] at hscan
      exact hscan

end Layout

end GoFixtures.Go
