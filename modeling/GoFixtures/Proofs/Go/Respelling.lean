import GoFixtures.Proofs.Go.Faults
import GoFixtures.Proofs.Go.Pieces
import GoFixtures.Proofs.Outcome

/-!
# Tokens written down again

The tokens of a text can be written down with single spaces between them: a semicolon that a line end stands
for as a line end, a string in back quotes unless one is in it, a rune in its quotes, and every other token as
its value. What is written so has the same tokens, up to their places. So comments and the layout of a text
say nothing, and every lexeme says by itself where it ends.

* `Lexeme.isValid_of_scan`: a lexeme that is read has the form of its kind.
* `Layout.exists_respells`: the tokens of a text, as parts of a text that is written.
* `Token.scan_respell`: the text that is written.
-/

namespace GoFixtures.Go

open Text

namespace Lexeme

variable {c : Char} {s rest t : List Char} {x : Lexeme} {hex : Bool} {d : Digits}

/-! ### Lexemes that are read -/

/-- A number is read the same way where a space follows it. -/
theorem digits?_text_blank (h : digits? hex s = some d) :
    digits? hex (d.text ++ [' ']) = some { d with rest := [' '] } := by
  have hblank : digits? hex [' '] = some ⟨[], false, [' ']⟩ := digits?_stop (by decide) (by decide)
  fun_induction digits? hex s generalizing d with
  | case1 =>
    obtain rfl := Option.some.inj h
    exact hblank
  | case2 => cases h
  | case3 c hc he sign more hs ih =>
    obtain ⟨d, hd, rfl⟩ := Option.map_eq_some_iff.1 h
    simp only [Digits.consFloat, Digits.cons, List.cons_append]
    rw [digits?_exponent hc he, if_pos hs, ih hd]
    rfl
  | case4 c hc he sign more hs ih =>
    obtain ⟨d, hd, rfl⟩ := Option.map_eq_some_iff.1 h
    -- behind the mark stands what stood there, or the space, but no sign
    obtain ⟨a, as, has, hsign⟩ : ∃ a as, d.text ++ [' '] = a :: as ∧ ¬ (a = '+' || a = '-') := by
      have htext := digits?_text hd
      cases hcs : d.text with
      | nil => exact ⟨' ', [], rfl, by decide⟩
      | cons a as =>
        rw [hcs, List.cons_append] at htext
        exact ⟨a, as ++ [' '], rfl, (List.cons.inj htext).1 ▸ hs⟩
    simp only [Digits.consFloat, List.cons_append]
    rw [has, digits?_exponent hc he, if_neg hsign, ← has, ih hd]
    rfl
  | case5 c rest hc he ih =>
    obtain ⟨d, hd, rfl⟩ := Option.map_eq_some_iff.1 h
    simp only [Digits.cons, List.cons_append]
    rw [digits?_name hc (by simpa using he), ih hd]
    rfl
  | case6 rest _ ih =>
    obtain ⟨d, hd, rfl⟩ := Option.map_eq_some_iff.1 h
    simp only [Digits.consFloat, List.cons_append]
    rw [digits?_point, ih hd]
    rfl
  | case7 =>
    obtain rfl := Option.some.inj h
    exact hblank

theorem EndsName.any_eq_false (h : EndsName rest) : rest.head?.any isNameCharacter = false := by
  cases rest with
  | nil => rfl
  | cons c rest => exact h c rfl

/-- What a number begins with belongs to it. -/
theorem beginsNumber_of_append (h : beginsNumber (t ++ rest)) (hne : t ≠ []) (hend : EndsName rest) :
    beginsNumber t := by
  obtain ⟨a, as, rfl⟩ := List.exists_cons_of_ne_nil hne
  by_cases ha : a = '.'
  · subst ha
    cases as with
    | cons b bs => exact h
    | nil =>
      -- the digit behind the point would belong to the number
      cases rest with
      | nil => exact absurd h (by decide)
      | cons b bs =>
        have hb : isNameCharacter b := isNameCharacter_of_isDigit h
        rw [hend b rfl] at hb
        cases hb
  · rw [List.cons_append, beginsNumber] at h
    · rw [beginsNumber]
      · exact h
      · simp [ha]
    · simp [ha]

/-- **A lexeme that is read has the form of its kind.** -/
theorem isValid_of_scan (h : scan c s = .ok (x, rest)) : x.isValid := by
  have hne := scan_ne_nil h
  cases scan_eq_ok_iff.1 h with
  | string hbody =>
    have hread := @quotedBody?_of_escaped '\x22' [] _ (by decide) (escaped_of_quotedBody? hbody)
    simpa [isValid] using hread
  | rawString hbody => simpa [isValid] using not_mem_of_rawBody? hbody
  | rune hbody =>
    have hread := @quotedBody?_of_escaped '\x27' [] _ (by decide) (escaped_of_quotedBody? hbody)
    simpa [isValid] using hread
  | @number _ _ d _ hnumber hdigits =>
    have hend := endsName_of_digits? hdigits
    have htext := digits?_text hdigits
    have hhex : isHex (d.text ++ d.rest) = isHex d.text := isHex_append hne hend.any_eq_false
    rw [← htext] at hnumber
    rw [← htext, hhex] at hdigits
    simp [isValid, beginsNumber_of_append hnumber hne hend, digits?_text_blank hdigits, numberKind]
  | word _ hnumber hstart => simp [isValid, hstart, isDigit_eq_false hnumber]
  | operator _ _ _ _ hop => simpa [isValid] using List.mem_of_find?_eq_some hop

/-! ### The spelling of tokens -/

/-- The lexeme of the same token that is written: a string stands in back quotes, unless one is in it. -/
def respelled : Lexeme → Lexeme
  | string body => if body.contains '\x60' then string body else rawString body
  | x => x

theorem kind_respelled (x : Lexeme) : x.respelled.kind = x.kind := by
  cases x with
  | string body => rw [respelled]; split <;> rfl
  | _ => rfl

theorem value_respelled (x : Lexeme) : x.respelled.value = x.value := by
  cases x with
  | string body => rw [respelled]; split <;> rfl
  | _ => rfl

theorem isValid_respelled (h : x.isValid) : x.respelled.isValid := by
  cases x with
  | string body =>
    rw [respelled]
    split
    · exact h
    · rename_i hbody
      simpa [isValid] using hbody
  | _ => exact h

theorem kind_of_isValid_number {kind : Token.Kind} {text : List Char} (h : (number kind text).isValid) :
    kind = .integer ∨ kind = .float ∨ kind = .imaginary := by
  simp only [isValid, Bool.and_eq_true] at h
  obtain ⟨d, -, hd⟩ := (Option.any_eq_true _ _).1 h.2
  simp only [Bool.and_eq_true, decide_eq_true_eq] at hd
  rw [← hd.2]
  exact numberKind_cases d

/-- A space ends every lexeme. -/
theorem stops_blank (h : x.isValid) : x.stops (some ' ') := by
  cases x with
  | word => rw [stops]; decide
  | number => rw [stops]; decide
  | operator op =>
    have hspace : ∀ op ∈ operators, (operator op).stops (some ' ') := by decide
    exact hspace op (by simpa [isValid] using h)
  | string | rawString | rune => rfl

/-- The end of the text ends a lexeme that cannot end a line: a number can. -/
theorem stops_none (h : x.isValid) (he : x.kind.endsLine = false) : x.stops none := by
  cases x with
  | number kind text =>
    rcases kind_of_isValid_number h with rfl | rfl | rfl <;> cases he
  | _ => rfl

end Lexeme

namespace Token

/-- The token as it is written: a line end, a literal in its quotes, or the value. -/
def respell (t : Token) : String :=
  if t.sign = lineSign then "\n"
  else
    match t.kind with
    | .rune => "\x27" ++ t.value ++ "\x27"
    | .string =>
      if t.value.toList.contains '\x60' then "\x22" ++ t.value ++ "\x22" else "\x60" ++ t.value ++ "\x60"
    | _ => t.value

theorem respell_of_sign {t : Token} (h : t.sign = lineSign) : t.respell = "\n" := if_pos h

theorem respell_of_not_literal {t : Token} (hs : t.sign ≠ lineSign) (hr : t.kind ≠ .rune)
    (hq : t.kind ≠ .string) :
    t.respell = t.value := by
  rw [respell, if_neg hs]
  split
  · contradiction
  · contradiction
  · rfl

end Token

/-- The token of a lexeme is written as the lexeme with the other spelling. -/
theorem Lexeme.respell_token {c : Char} {s rest : List Char} {x : Lexeme} {p : Position}
    (h : scan c s = .ok (x, rest)) :
    (x.token p).respell.toList = x.respelled.text := by
  have hsign : (x.token p).sign ≠ Token.lineSign := (spells_of_scan h).isWritten.2
  cases scan_eq_ok_iff.1 h with
  | @string _ body _ hbody =>
    rw [Token.respell, if_neg hsign]
    simp only [token, kind, value, String.toList_ofList, respelled]
    split <;> simp [text]
  | @rawString _ body _ hbody =>
    have hmark := not_mem_of_rawBody? hbody
    rw [Token.respell, if_neg hsign]
    simp [token, kind, value, respelled, text, hmark]
  | rune =>
    rw [Token.respell, if_neg hsign]
    simp [token, kind, value, respelled, text]
  | @number _ _ d =>
    have hkind : numberKind d ≠ .rune ∧ numberKind d ≠ .string := by
      rcases numberKind_cases d with hk | hk | hk <;> rw [hk] <;> decide
    rw [Token.respell_of_not_literal hsign hkind.1 hkind.2]
    exact String.toList_ofList
  | @word c s =>
    have hkind : (word (c :: s.takeWhile isNameCharacter)).kind ≠ .rune ∧
        (word (c :: s.takeWhile isNameCharacter)).kind ≠ .string := by
      rcases kind_word_cases (c :: s.takeWhile isNameCharacter) with hk | ⟨k, hk⟩ <;> simp [hk]
    rw [Token.respell_of_not_literal hsign hkind.1 hkind.2]
    exact String.toList_ofList
  | @operator _ _ op =>
    have hkind := ofOperator_not_literal op
    rw [Token.respell_of_not_literal hsign hkind.1 hkind.2]
    rfl

namespace Layout

variable {p : Position} {e : Bool} {s : List Char} {ts : List Token} {items : List Item}

/-! ### The parts that are written -/

/-- A part that is no space, and if it is a lexeme, one that has the form of its kind. -/
def Item.IsWritten : Item → Prop
  | blank _ => False
  | lineEnd => True
  | lexeme x => x.isValid

/-- The parts are the tokens as they are written, behind a token that can end a line or not, and a line end
stands behind the last token if that can end a line. -/
structure Respells (e : Bool) (ts : List Token) (items : List Item) : Prop where
  text : items.map Item.text = ts.map fun t => t.respell.toList
  signs : Item.signs e items = ts.map Token.sign
  isWritten : ∀ item ∈ items, item.IsWritten
  ended : Item.endsAfter e items = false

namespace Respells

variable {q : Position} {c : Char} {rest : List Char} {x : Lexeme}

protected theorem nil : Respells false [] [] := ⟨rfl, rfl, by simp, rfl⟩

theorem lineEnd (h : Respells false ts items) :
    Respells true (.impliedSemicolon q :: ts) (.lineEnd :: items) where
  text := by
    rw [List.map_cons, List.map_cons, h.text, Token.respell_of_sign rfl]
    rfl
  signs := by
    rw [Item.signs, h.signs]
    rfl
  isWritten := List.forall_mem_cons.2 ⟨trivial, h.isWritten⟩
  ended := h.ended

theorem lexeme (hx : Lexeme.scan c s = .ok (x, rest)) (h : Respells x.kind.endsLine ts items) :
    Respells e (x.token q :: ts) (.lexeme x.respelled :: items) where
  text := by
    rw [List.map_cons, List.map_cons, h.text, Lexeme.respell_token hx]
    rfl
  signs := by
    rw [Item.signs, Lexeme.kind_respelled, Lexeme.value_respelled, h.signs]
    rfl
  isWritten := List.forall_mem_cons.2 ⟨Lexeme.isValid_respelled (Lexeme.isValid_of_scan hx), h.isWritten⟩
  ended := by
    rw [Item.endsAfter, Lexeme.kind_respelled]
    exact h.ended

end Respells

/-- **The tokens of a text are parts of a text that is written**, all but the one that stands for its end. -/
theorem exists_respells (h : (ofText s).tokens p e = .ok ts) :
    ∃ us q items, ts = us ++ [.finish q] ∧ Respells e us items := by
  induction s using pieces_induction generalizing p e ts with
  | nil =>
    rw [tokens_nil] at h
    obtain rfl := Except.ok.inj h
    cases e with
    | false => exact ⟨[], _, [], rfl, .nil⟩
    | true => exact ⟨_, _, _, rfl, Respells.nil.lineEnd⟩
  | @gap _ _ piece hp ih =>
    rw [tokens_gap hp] at h
    obtain ⟨us, hus, rfl⟩ := map_eq_ok_iff.1 h
    obtain ⟨us, q, items, rfl, hitems⟩ := ih hus
    cases hline : e && piece.endsLine with
    | false =>
      have he : (e && !piece.endsLine) = e := by revert hline; cases e <;> cases piece.endsLine <;> decide
      exact ⟨us, q, items, rfl, he ▸ hitems⟩
    | true =>
      obtain ⟨rfl, hends⟩ := Bool.and_eq_true_iff.1 hline
      rw [hends] at hitems
      exact ⟨_, q, _, rfl, hitems.lineEnd⟩
  | lexeme hg hx ih =>
    rw [tokens_lexeme hg hx] at h
    obtain ⟨us, hus, rfl⟩ := map_eq_ok_iff.1 h
    obtain ⟨us, q, items, rfl, hitems⟩ := ih hus
    exact ⟨_, q, _, rfl, .lexeme hx hitems⟩
  | fault hg hx =>
    rw [tokens_fault hg hx] at h
    cases h

/-- **Parts with spaces between them** are read as these parts. -/
theorem scans_spaced (h : ∀ item ∈ items, item.IsWritten) (he : Item.endsAfter e items = false) :
    Scans ([' '].intercalate (items.map Item.text)) e (Item.signs e items) [] false := by
  induction items generalizing e with
  | nil =>
    obtain rfl : e = false := he
    exact .refl [] false
  | cons item items ih =>
    rw [List.forall_mem_cons] at h
    cases items with
    | nil =>
      have hw : Item.wellSpaced [item] none := by
        cases item with
        | blank => exact h.1.elim
        | lineEnd => rfl
        | lexeme x =>
          have hx : x.isValid := h.1
          simp [Item.wellSpaced, hx, Lexeme.stops_none hx he]
      have hscan := Scans.items (e := e) (s := []) hw
      rw [he, List.flatMap_singleton, List.append_nil] at hscan
      rw [List.map_singleton, List.intercalate_singleton]
      exact hscan
    | cons next items =>
      -- a part and the space behind it, then the others
      have hw (c : Option Char) : Item.wellSpaced [item, .space] c := by
        cases item with
        | blank => exact h.1.elim
        | lineEnd => rfl
        | lexeme x =>
          have hx : x.isValid := h.1
          have hspace : x.stops (([Item.space].flatMap Item.text).head?.or c) := Lexeme.stops_blank hx
          rw [Item.wellSpaced, hx, hspace]
          rfl
      have hitem := Scans.items (e := e) (s := [' '].intercalate ((next :: items).map Item.text)) (hw _)
      have htext : [item, .space].flatMap Item.text = item.text ++ [' '] := rfl
      rw [htext] at hitem
      rw [List.map_cons, List.map_cons, List.intercalate_cons_cons]
      cases item with
      | blank => exact h.1.elim
      | lineEnd =>
        have hsigns : Item.signs e [.lineEnd, .space] = if e then [Token.lineSign] else [] := List.append_nil _
        rw [hsigns] at hitem
        exact hitem.trans (ih h.2 he)
      | lexeme x => exact hitem.trans (ih h.2 he)

end Layout

/-- **Tokens written down again.** The tokens of a text, all but the one for its end, as they are written with
single spaces between them, are a text that has the same tokens up to their places. -/
theorem Token.scan_respell {source : String} {ts : List Token} (h : Token.scan source = .ok ts) :
    ∃ us, Token.scan (" ".intercalate (ts.dropLast.map Token.respell)) = .ok us ∧
      us.map Token.sign = ts.map Token.sign := by
  obtain ⟨ts, q, items, rfl, hitems⟩ := Layout.exists_respells h
  have htext : (" ".intercalate (ts.map Token.respell)).toList =
      [' '].intercalate (items.map Layout.Item.text) := by
    rw [String.toList_intercalate, List.map_map, hitems.text]
    rfl
  obtain ⟨us, hus, hsigns⟩ := (Layout.scans_spaced hitems.isWritten hitems.ended).finish .start
  refine ⟨us, ?_, ?_⟩
  · rw [List.dropLast_concat, Token.scan, htext]
    exact hus
  · rw [hsigns, hitems.signs, List.map_append, if_neg Bool.false_ne_true, List.append_nil]
    rfl

/-- A string with a back quote in it, one with an escaped quote, a rune, a number that ends with the mark of
an exponent, an operator right behind another one, and a comment over a line end. -/
def tightSource : String := "x:=\x22a\x60\\n\x22+\x22\\\x22\x22+'\\''\n1e*-0x1p-2i/*\n*/...;break"

/-- Its tokens. -/
def tightTokens : List Token :=
  [⟨.identifier, "x", ⟨1, 1⟩⟩, ⟨.operator, ":=", ⟨1, 2⟩⟩, ⟨.string, "a\x60\\n", ⟨1, 4⟩⟩,
    ⟨.operator, "+", ⟨1, 10⟩⟩,
    ⟨.string, "\\\x22", ⟨1, 11⟩⟩, ⟨.operator, "+", ⟨1, 15⟩⟩, ⟨.rune, "\\'", ⟨1, 16⟩⟩, .impliedSemicolon ⟨1, 20⟩,
      ⟨.float, "1e", ⟨2, 1⟩⟩,
    ⟨.mark .star, "*", ⟨2, 3⟩⟩, ⟨.operator, "-", ⟨2, 4⟩⟩, ⟨.imaginary, "0x1p-2i", ⟨2, 5⟩⟩,
      .impliedSemicolon ⟨2, 12⟩,
    ⟨.mark .ellipsis, "...", ⟨3, 3⟩⟩, ⟨.mark .semicolon, ";", ⟨3, 6⟩⟩, ⟨.keyword .break, "break", ⟨3, 7⟩⟩,
      .impliedSemicolon ⟨3, 12⟩,
    .finish ⟨3, 12⟩]

/-- The text that is written again. -/
def looseSource : String := "x := \x22a\x60\\n\x22 + \x60\\\x22\x60 + '\\'' \n 1e * - 0x1p-2i \n ... ; break \n"

theorem Token.scan_respell_tight : Token.scan tightSource = .ok tightTokens ∧
    " ".intercalate (tightTokens.dropLast.map Token.respell) = looseSource ∧
    ∃ us, Token.scan looseSource = .ok us ∧ us.map Token.sign = tightTokens.map Token.sign := by
  have h : Token.scan tightSource = .ok tightTokens := by decide +kernel
  have htext : " ".intercalate (tightTokens.dropLast.map Token.respell) = looseSource := by decide +kernel
  exact ⟨h, htext, htext ▸ Token.scan_respell h⟩

end GoFixtures.Go
