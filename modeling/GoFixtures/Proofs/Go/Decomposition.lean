import GoFixtures.Proofs.Go.Layout
import Mathlib.Data.List.Infix
import Mathlib.Data.List.TakeWhile

/-!
# Source texts decompose

A text that has tokens is a gap, a lexeme, a gap, a lexeme, and so on. What may be a gap and what a lexeme is
said here without the scanner, of a piece of text and what stands behind it.

* `Gap.StandsBefore`: blanks, line ends and whole comments.
* `Lexeme.Spells`: a lexeme that is as long as it can be, with the kind and the value of its token.
* `Token.decomposition_of_scan`: the decomposition, with the place of each token and all semicolons that are
  not written.
-/

namespace GoFixtures.Go

open Text

/-! ### Gaps -/

namespace Gap

variable {s rest : List Char} {p : Piece}

/-- Whether a part of a gap is whole where `rest` follows it: a line comment goes up to the end of its line,
any other comment up to the first end mark. -/
def Piece.StandsBefore (rest : List Char) : Piece → Prop
  | blank c => c = ' ' ∨ c = '\t' ∨ c = '\x0d'
  | newline => True
  | lineComment body => '\n' ∉ body ∧ ∀ c ∈ rest.head?, c = '\n'
  | blockComment body => ¬ ['*', '/'] <:+: body

/-- Whether all parts of a gap are whole where `rest` follows it. -/
def StandsBefore (rest : List Char) : Gap → Prop
  | [] => True
  | piece :: gap => piece.StandsBefore (text gap ++ rest) ∧ StandsBefore rest gap

/-- A search stops at something that it does not go past. -/
theorem not_of_mem_head?_dropWhile {α : Type} {q : α → Bool} {l : List α} {a : α}
    (h : a ∈ (l.dropWhile q).head?) : q a = false := by
  have := List.head?_dropWhile_not q l
  rw [Option.mem_def.1 h] at this
  simpa using this

/-- The body of a comment has no end mark in it. -/
theorem not_infix_of_blockBody? {body : List Char} (h : blockBody? s = some (body, rest)) :
    ¬ ['*', '/'] <:+: body := by
  fun_induction blockBody? s generalizing body with
  | case1 => cases h
  | case2 =>
    obtain ⟨rfl, -⟩ := Prod.mk.inj (Option.some.inj h)
    simp
  | case3 c s hmark ih =>
    obtain ⟨⟨b, r⟩, hb, heq⟩ := Option.map_eq_some_iff.1 h
    obtain ⟨rfl, rfl⟩ := Prod.mk.inj heq
    rw [List.infix_cons_iff]
    rintro (hp | hi)
    · -- the mark would have ended the comment here
      obtain ⟨t, ht⟩ := hp
      obtain ⟨rfl, hbody⟩ := List.cons.inj ht
      have hs := blockBody?_text hb
      rw [← hbody] at hs
      exact hmark (t ++ '*' :: '/' :: r) rfl hs.symm
    · exact ih hb hi

/-- A piece of a gap is one that may stand there. -/
theorem standsBefore_of_piece? (h : piece? s = some (p, rest)) : p.StandsBefore rest := by
  unfold piece? at h
  split at h
  · obtain ⟨rfl, -⟩ := Prod.mk.inj (Option.some.inj h)
    trivial
  · obtain ⟨rfl, rfl⟩ := Prod.mk.inj (Option.some.inj h)
    refine ⟨fun hn => ?_, fun c hc => ?_⟩
    · have := List.mem_takeWhile_imp hn
      simp at this
    · simpa using not_of_mem_head?_dropWhile hc
  · obtain ⟨⟨b, r⟩, hb, heq⟩ := Option.map_eq_some_iff.1 h
    obtain ⟨rfl, rfl⟩ := Prod.mk.inj heq
    exact not_infix_of_blockBody? hb
  · split at h
    · rename_i hblank
      obtain ⟨rfl, -⟩ := Prod.mk.inj (Option.some.inj h)
      simpa only [isBlank, Bool.or_eq_true, decide_eq_true_eq, or_assoc, Piece.StandsBefore] using hblank
    · cases h
  · cases h

/-- The gap that is read is one. -/
theorem standsBefore_scan (s : List Char) : (scan s).1.StandsBefore (scan s).2 := by
  fun_induction scan s with
  | case1 => trivial
  | case2 s p rest h _ ih => exact ⟨by rw [scan_text]; exact standsBefore_of_piece? h, ih⟩

/-- Line ends are in the pieces that end lines. -/
theorem mem_text_iff_endsLine (h : p.StandsBefore rest) : '\n' ∈ p.text ↔ p.endsLine := by
  cases p with
  | blank c =>
    have hc : c ≠ '\n' := by rcases h with rfl | rfl | rfl <;> decide
    simp [Piece.text, Piece.endsLine, Ne.symm hc]
  | newline => simp [Piece.text, Piece.endsLine]
  | lineComment body =>
    have hbody : '\n' ∉ body := h.1
    simp [Piece.text, Piece.endsLine, hbody]
  | blockComment body => simp [Piece.text, Piece.endsLine]

/-- A gap ends a line if a line end is in it. -/
theorem lineEnd?_isSome_iff {gap : Gap} {q : Position} (h : gap.StandsBefore rest) :
    (gap.lineEnd? q).isSome ↔ '\n' ∈ gap.text := by
  induction gap generalizing q with
  | nil => simp [lineEnd?, text]
  | cons piece gap ih =>
    have hpiece := mem_text_iff_endsLine h.1
    rw [lineEnd?, text_cons, List.mem_append, hpiece]
    by_cases hl : piece.endsLine
    · simp [hl]
    · have hgap := @ih (q.after piece.text) h.2
      simpa [hl] using hgap

end Gap

/-! ### Lexemes -/

namespace Lexeme

/-- A body in which a backslash takes the next character with it, and where neither the mark nor a line end
stands alone. -/
inductive Escaped (mark : Char) : List Char → Prop
  | nil : Escaped mark []
  | plain {c : Char} {body : List Char} (hm : c ≠ mark) (hl : c ≠ '\n') (hb : c ≠ '\\') (h : Escaped mark body) :
      Escaped mark (c :: body)
  | escape (c : Char) {body : List Char} (h : Escaped mark body) : Escaped mark ('\\' :: c :: body)

/-- No letter, digit or underscore stands first. -/
def EndsName (rest : List Char) : Prop := ∀ c ∈ rest.head?, isNameCharacter c = false

/-- **Lexemes.** The text, where `rest` follows it, is the lexeme of a token with the kind and the value:
names, keywords and numbers go on as far as they can, literals up to the first mark that closes them, and an
operator is the longest one. -/
inductive Spells : List Char → Token.Kind → String → List Char → Prop
  | name {c : Char} {cs rest : List Char} (hstart : isNameStart c) (hname : ∀ d ∈ cs, isNameCharacter d)
      (hkeyword : ∀ k : Keyword, k.spelling.toList ≠ c :: cs) (hend : EndsName rest) :
      Spells (c :: cs) .identifier (String.ofList (c :: cs)) rest
  | keyword (k : Keyword) {rest : List Char} (hend : EndsName rest) :
      Spells k.spelling.toList (.keyword k) k.spelling rest
  | number {kind : Token.Kind} {text rest : List Char}
      (hkind : kind = .integer ∨ kind = .float ∨ kind = .imaginary)
      (hne : text ≠ []) (hbegin : beginsNumber (text ++ rest)) (hend : EndsName rest) :
      Spells text kind (String.ofList text) rest
  | string {body rest : List Char} (h : Escaped '\x22' body) :
      Spells ('\x22' :: (body ++ ['\x22'])) .string (String.ofList body) rest
  | rawString {body rest : List Char} (h : '\x60' ∉ body) :
      Spells ('\x60' :: (body ++ ['\x60'])) .string (String.ofList body) rest
  | rune {body rest : List Char} (h : Escaped '\x27' body) :
      Spells ('\x27' :: (body ++ ['\x27'])) .rune (String.ofList body) rest
  | operator {op : String} {rest : List Char} (hop : op ∈ operators)
      (hlongest : ∀ longer ∈ operators, longer.toList <+: op.toList ++ rest → longer.length ≤ op.length) :
      Spells op.toList (.ofOperator op) op rest

variable {c mark : Char} {s rest body text : List Char} {x : Lexeme}

/-- A quoted body has its quotes escaped. -/
theorem escaped_of_quotedBody? (h : quotedBody? mark s = some (body, rest)) : Escaped mark body := by
  fun_induction quotedBody? mark s generalizing body with
  | case1 => cases h
  | case2 c s ih =>
    obtain ⟨⟨b, r⟩, hb, heq⟩ := Option.map_eq_some_iff.1 h
    obtain ⟨rfl, rfl⟩ := Prod.mk.inj heq
    exact .escape c (ih hb)
  | case3 =>
    obtain ⟨rfl, -⟩ := Prod.mk.inj (Option.some.inj h)
    exact .nil
  | case4 => cases h
  | case5 c s _ hm hc ih =>
    obtain ⟨⟨b, r⟩, hb, heq⟩ := Option.map_eq_some_iff.1 h
    obtain ⟨rfl, rfl⟩ := Prod.mk.inj heq
    simp only [Bool.or_eq_true, decide_eq_true_eq, not_or] at hc
    exact .plain hm hc.1 hc.2 (ih hb)

/-- A raw body has no quote in it. -/
theorem not_mem_of_rawBody? (h : rawBody? s = some (body, rest)) : '\x60' ∉ body := by
  induction s generalizing body with
  | nil => cases h
  | cons c s ih =>
    rw [rawBody?] at h
    by_cases hc : c = '\x60'
    · rw [if_pos hc] at h
      obtain ⟨rfl, -⟩ := Prod.mk.inj (Option.some.inj h)
      exact List.not_mem_nil
    · rw [if_neg hc] at h
      obtain ⟨⟨b, r⟩, hb, heq⟩ := Option.map_eq_some_iff.1 h
      obtain ⟨rfl, rfl⟩ := Prod.mk.inj heq
      rw [List.mem_cons, not_or]
      exact ⟨Ne.symm hc, ih hb⟩

/-- A number goes on over all letters, digits and underscores. -/
theorem endsName_of_digits? {hex : Bool} {d : Digits} (h : digits? hex s = some d) : EndsName d.rest := by
  fun_induction digits? hex s generalizing d with
  | case1 =>
    obtain rfl := Option.some.inj h
    intro c hc
    cases hc
  | case2 => cases h
  | case3 | case4 | case5 | case6 =>
    rename_i ih
    obtain ⟨e, he, rfl⟩ := Option.map_eq_some_iff.1 h
    have hrest := ih he
    exact hrest
  | case7 c rest hname _ =>
    obtain rfl := Option.some.inj h
    intro d hd
    obtain rfl := Option.some.inj hd
    simpa using hname

/-- A number is of one of three kinds. -/
theorem numberKind_cases (d : Digits) : numberKind d = .integer ∨ numberKind d = .float ∨
    numberKind d = .imaginary := by
  unfold numberKind
  split
  · exact .inr (.inr rfl)
  · split
    · exact .inr (.inl rfl)
    · exact .inl rfl

/-- A word is an identifier or a keyword. -/
theorem kind_word_cases (name : List Char) :
    (word name).kind = .identifier ∨ ∃ k, (word name).kind = .keyword k := by
  cases hk : Keyword.ofSpelling? (String.ofList name) with
  | none => exact .inl (by rw [kind, hk]; rfl)
  | some k => exact .inr ⟨k, by rw [kind, hk]; rfl⟩

/-- The first operator of the list that a text begins with is the longest one. -/
theorem operator?_longest {op longer : String} (h : operator? s = some op) (hl : longer ∈ operators)
    (hp : longer.toList <+: s) : longer.length ≤ op.length := by
  have hsorted : operators.Pairwise fun a b => b.length ≤ a.length := by decide
  obtain ⟨-, before, after, heq, hno⟩ := List.find?_eq_some_iff_append.1 h
  rw [heq] at hl hsorted
  rcases List.mem_append.1 hl with hl | hl
  · -- an operator before it in the list would have been taken
    have hnot := hno longer hl
    rw [List.isPrefixOf_iff_prefix.2 hp] at hnot
    cases hnot
  rcases List.mem_cons.1 hl with rfl | hl
  · exact Nat.le_refl _
  · exact (List.pairwise_cons.1 (List.pairwise_append.1 hsorted).2.1).1 longer hl

/-- A word is a keyword or a name. -/
theorem spells_word {cs : List Char} (hstart : isNameStart c) (hname : ∀ d ∈ cs, isNameCharacter d)
    (hend : EndsName rest) :
    Spells (c :: cs) (word (c :: cs)).kind (String.ofList (c :: cs)) rest := by
  cases hk : Keyword.ofSpelling? (String.ofList (c :: cs)) with
  | none =>
    have hkind : (word (c :: cs)).kind = .identifier := by rw [kind, hk]; rfl
    rw [hkind]
    refine .name hstart hname (fun k heq => ?_) hend
    have hno := List.find?_eq_none.1 hk k (Keyword.mem_all k)
    rw [← heq, String.ofList_toList] at hno
    simp at hno
  | some k =>
    have hkind : (word (c :: cs)).kind = .keyword k := by rw [kind, hk]; rfl
    have hspelling : k.spelling = String.ofList (c :: cs) := by simpa using List.find?_some hk
    have htext : k.spelling.toList = c :: cs := by rw [hspelling, String.toList_ofList]
    rw [hkind, ← htext, String.ofList_toList]
    exact .keyword k hend

/-- **What is read is a lexeme.** -/
theorem spells_of_scan (h : scan c s = .ok (x, rest)) : Spells x.text x.kind x.value rest := by
  have htext := scan_text h
  have hne := scan_ne_nil h
  cases scan_eq_ok_iff.1 h with
  | string hbody => exact .string (escaped_of_quotedBody? hbody)
  | rawString hbody => exact .rawString (not_mem_of_rawBody? hbody)
  | rune hbody => exact .rune (escaped_of_quotedBody? hbody)
  | number _ hnumber hdigits =>
    exact .number (numberKind_cases _) hne (htext ▸ hnumber) (endsName_of_digits? hdigits)
  | word _ _ hstart =>
    exact spells_word hstart (fun d hd => List.mem_takeWhile_imp hd) fun d hd => Gap.not_of_mem_head?_dropWhile hd
  | operator _ _ _ _ hop =>
    refine .operator (List.mem_of_find?_eq_some hop) fun longer hl hp => ?_
    exact operator?_longest hop hl (htext ▸ hp)

theorem ofOperator_ne_endOfFile (op : String) : Token.Kind.ofOperator op ≠ .endOfFile := by
  unfold Token.Kind.ofOperator
  split <;> decide

theorem ofOperator_not_literal (op : String) :
    Token.Kind.ofOperator op ≠ .rune ∧ Token.Kind.ofOperator op ≠ .string := by
  unfold Token.Kind.ofOperator
  split <;> decide

namespace Spells

variable {k : Token.Kind} {v : String}

/-- No lexeme stands for the end of the file, and none for a line end. -/
theorem isWritten (h : Spells text k v rest) : k ≠ .endOfFile ∧ (k, v) ≠ Token.lineSign := by
  cases h with
  | name | keyword | string | rawString | rune => exact ⟨nofun, nofun⟩
  | number hkind => rcases hkind with rfl | rfl | rfl <;> exact ⟨nofun, nofun⟩
  | operator hop =>
    have hvalue : ∀ op ∈ operators, op ≠ Token.lineEnd := by decide
    exact ⟨ofOperator_ne_endOfFile v, fun heq => hvalue v hop (congrArg Prod.snd heq)⟩

end Spells

end Lexeme

/-! ### Decompositions -/

/-- A lexeme with its token, the semicolon that stands behind the token without being written, if there is
one, and the gap that follows. -/
structure Segment where
  lexeme : List Char
  token : Token
  implied : Option Token
  gap : Gap

namespace Segment

/-- The segment as it is written. -/
def text (x : Segment) : List Char := x.lexeme ++ x.gap.text

/-- The tokens of the segment. -/
def tokens (x : Segment) : List Token := x.token :: x.implied.toList

/-- What a segment at a place is where the others follow it. A semicolon stands behind the token exactly if
the token can end a line, and the gap holds a line end or the text ends there. -/
structure StandsAt (x : Segment) (p : Position) (after : List Segment) : Prop where
  lexeme : Lexeme.Spells x.lexeme x.token.kind x.token.value (x.gap.text ++ after.flatMap text)
  position : x.token.position = p
  gap : x.gap.StandsBefore (after.flatMap text)
  written : x.token.kind ≠ .endOfFile ∧ x.token.sign ≠ Token.lineSign
  implied : x.implied.isSome ↔ x.token.kind.endsLine ∧ ('\n' ∈ x.gap.text ∨ after = [])
  impliedSign : ∀ t ∈ x.implied, t.sign = Token.lineSign

end Segment

/-- **A decomposition** of a text with tokens into a gap and segments. -/
structure Decomposes (source : String) (ts : List Token) (lead : Gap) (segments : List Segment) : Prop where
  text : source.toList = lead.text ++ segments.flatMap Segment.text
  leading : lead.StandsBefore (segments.flatMap Segment.text)
  segment : ∀ before x after, segments = before ++ x :: after →
    x.StandsAt (Position.start.after (lead.text ++ before.flatMap Segment.text)) after
  tokens : ts = segments.flatMap Segment.tokens ++ [.finish (Position.start.after source.toList)]

namespace Layout

variable {p : Position} {e last : Bool} {s : List Char} {gap : Gap} {l : Layout} {ts : List Token}

/-- The gap that a layout begins with. -/
def lead : Layout → Gap
  | finish gap => gap
  | fault gap _ _ => gap
  | lexeme gap _ _ => gap

/-- Whether no lexeme follows. -/
def isLast : Layout → Bool
  | lexeme _ _ _ => false
  | _ => true

/-- The segments of a layout that begins at `p`. -/
def segments (p : Position) : Layout → List Segment
  | lexeme gap x next =>
    let q := p.after gap.text
    let r := q.after x.text
    ⟨x.text, x.token q, (semicolons x.kind.endsLine next.isLast r next.lead).head?, next.lead⟩ :: segments r next
  | _ => []

theorem lead_ofText (s : List Char) : (ofText s).lead = (Gap.scan s).1 := by
  rw [ofText]
  split
  · rfl
  · split <;> rfl

/-- Only the last part has no segments behind it. -/
theorem segments_eq_nil_iff : l.segments p = [] ↔ l.isLast := by
  cases l <;> simp [segments, isLast]

theorem toList_head?_semicolons : (semicolons e last p gap).head?.toList = semicolons e last p gap := by
  unfold semicolons
  cases e
  · rfl
  cases gap.lineEnd? p
  · cases last <;> rfl
  · rfl

/-- There is a semicolon behind a token that ends a line if the gap has a line end or the text is over. -/
theorem isSome_head?_semicolons {rest : List Char} (h : gap.StandsBefore rest) :
    (semicolons e last p gap).head?.isSome ↔ e ∧ ('\n' ∈ gap.text ∨ last) := by
  rw [← Gap.lineEnd?_isSome_iff (q := p) h]
  unfold semicolons
  cases e
  · simp
  cases gap.lineEnd? p
  · cases last <;> simp
  · simp

/-- The semicolons that are put in look like line ends. -/
theorem sign_of_mem_semicolons {t : Token} (h : t ∈ (semicolons e last p gap).head?) :
    t.sign = Token.lineSign := by
  have hmem := List.mem_of_mem_head? h
  unfold semicolons at hmem
  split at hmem
  · split at hmem
    · rw [List.mem_singleton.1 hmem]; rfl
    · split at hmem
      · rw [List.mem_singleton.1 hmem]; rfl
      · cases hmem
  · cases hmem

/-- The tokens of a layout are those of its segments. -/
theorem tokens_eq (h : l.tokens p e = .ok ts) :
    ts = semicolons e l.isLast p l.lead ++
      ((l.segments p).flatMap Segment.tokens ++ [.finish (p.after l.text)]) := by
  induction l generalizing p e ts with
  | finish gap => exact (Except.ok.inj h).symm
  | fault => cases h
  | lexeme gap x next ih =>
    rw [tokens] at h
    split at h
    · rename_i us hus
      obtain rfl := Except.ok.inj h
      have hnext := ih hus
      rw [hnext]
      simp only [isLast, lead, segments, text, List.flatMap_cons, Segment.tokens, toList_head?_semicolons,
        Position.after_append, List.cons_append, List.append_assoc]
    · cases h

/-- The segments of a layout with tokens make up its text. -/
theorem text_eq (h : l.tokens p e = .ok ts) : l.text = l.lead.text ++ (l.segments p).flatMap Segment.text := by
  induction l generalizing p e ts with
  | finish gap => simp [text, lead, segments]
  | fault => cases h
  | lexeme gap x next ih =>
    rw [tokens] at h
    split at h
    · rename_i us hus
      have hnext := ih hus
      rw [text, hnext]
      simp only [lead, segments, List.flatMap_cons, Segment.text, List.append_assoc]
    · cases h

/-- The gap in front of the first segment. -/
theorem standsBefore_lead (h : (ofText s).tokens p e = .ok ts) :
    (ofText s).lead.StandsBefore (((ofText s).segments p).flatMap Segment.text) := by
  have htext := text_eq h
  rw [ofText_text, lead_ofText] at htext
  -- what is left behind the gap are the segments
  have hrest := List.append_cancel_left ((Gap.scan_text s).trans htext)
  rw [← hrest, lead_ofText]
  exact Gap.standsBefore_scan s

/-- **Each segment stands where it was read.** -/
theorem segment_standsAt (h : (ofText s).tokens p e = .ok ts) {before : List Segment} {x : Segment}
    {after : List Segment}
    (hx : (ofText s).segments p = before ++ x :: after) :
    x.StandsAt (p.after ((ofText s).lead.text ++ before.flatMap Segment.text)) after := by
  fun_induction ofText s generalizing p e ts before with
  | case1 s hs => cases before <;> cases hx
  | case2 => cases h
  | case3 s c rest hs y next hy _ ih =>
    rw [tokens] at h
    split at h
    · rename_i us hus
      have hnext := text_eq hus
      rw [ofText_text] at hnext
      cases before with
      | nil =>
        obtain ⟨rfl, rfl⟩ := List.cons.inj hx
        have hspells := Lexeme.spells_of_scan hy
        have hgap := standsBefore_lead hus
        rw [hnext] at hspells
        refine ⟨hspells, ?_, hgap, hspells.isWritten, ?_, fun t ht => sign_of_mem_semicolons ht⟩
        · simp [Lexeme.token, lead]
        · rw [segments_eq_nil_iff]
          exact isSome_head?_semicolons hgap
      | cons b before =>
        obtain ⟨rfl, hmore⟩ := List.cons.inj hx
        have hlater := ih hus hmore
        -- the place is counted from behind the first lexeme
        simpa [lead, Segment.text, Position.after_append] using hlater
    · cases h

end Layout

/-- **Source texts decompose.** A text that has tokens is made of gaps and lexemes, and its tokens are those
of the lexemes, in order, with the semicolons that line ends stand for, and one more for the end of the text. -/
theorem Token.decomposition_of_scan {source : String} {ts : List Token} (h : Token.scan source = .ok ts) :
    ∃ lead segments, Decomposes source ts lead segments := by
  have htext := Layout.text_eq h
  have htokens := Layout.tokens_eq h
  rw [Layout.ofText_text] at htext htokens
  refine ⟨_, _, htext, Layout.standsBefore_lead h, fun before x after hx => Layout.segment_standsAt h hx, ?_⟩
  exact htokens

/-- A text with comments that span lines, a raw literal with a line end, a number that begins with a point,
and an operator right behind it. -/
def mixedSource : String := "\ta /*\n*/ \x60b\n\x60++ // c\n.5e+1&^=_"

/-- Its tokens. -/
def mixedTokens : List Token :=
  [⟨.identifier, "a", ⟨1, 2⟩⟩, .impliedSemicolon ⟨1, 4⟩, ⟨.string, "b\n", ⟨2, 4⟩⟩, ⟨.mark .step, "++", ⟨3, 2⟩⟩,
    .impliedSemicolon ⟨3, 9⟩, ⟨.float, ".5e+1", ⟨4, 1⟩⟩, ⟨.operator, "&^=", ⟨4, 6⟩⟩, ⟨.identifier, "_", ⟨4, 9⟩⟩,
    .impliedSemicolon ⟨4, 10⟩, .finish ⟨4, 10⟩]

theorem Token.decomposition_of_scan_mixed :
    Token.scan mixedSource = .ok mixedTokens ∧
      ∃ lead segments, Decomposes mixedSource mixedTokens lead segments := by
  have h : Token.scan mixedSource = .ok mixedTokens := by decide +kernel
  exact ⟨h, Token.decomposition_of_scan h⟩

end GoFixtures.Go
