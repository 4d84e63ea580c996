import GoFixtures.Go.Token
import GoFixtures.Text.Quoted

/-!
# Lexemes

A lexeme is a piece of source text that makes up one token. `Lexeme.scan` reads the lexeme that a
text begins with; the text begins with no gap.

* `Lexeme.scan_text`: the lexeme and what is left make up the text.
* `Lexeme.scan_length`: what is left is shorter than the text.
-/

namespace GoFixtures.Go

open Text

namespace Lexeme

/-- What keeps a text from beginning with a lexeme. -/
inductive Fault
  | unexpected (c : Char)
  | unterminatedString
  | unterminatedRawString
  | unterminatedRune
  | unterminatedComment
  | truncatedExponent
deriving DecidableEq

namespace Fault

/-- The fault in words. -/
def message : Fault → String
  | unexpected c => "Unexpected character: " ++ quote (String.singleton c)
  | unterminatedString => "Unterminated string literal"
  | unterminatedRawString => "Unterminated raw string literal"
  | unterminatedRune => "Unterminated rune literal"
  | unterminatedComment => "Unterminated block comment"
  | truncatedExponent => "string index out of range"

end Fault

/-- The operators and separators. An operator stands before every shorter one that it begins with. -/
def operators : List String :=
  ["&^=", "<<=", ">>=", "...", "&&", "||", "<-", "++", "--", "==", "!=", "<=", ">=", ":=", "+=",
    "-=", "*=", "/=", "%=", "&=", "|=", "^=", "<<", ">>", "&^", "+", "-", "*", "/", "%", "&", "|",
    "^", "<", ">", "=", "!", "(", ")", "[", "]", "\x7b", "\x7d", ",", ";", ".", ":", "~"]

/-- The longest operator that a text begins with. -/
def operator? (s : List Char) : Option String :=
  operators.find? fun op => op.toList.isPrefixOf s

/-- A character that a name may go on with. -/
def isNameCharacter (c : Char) : Bool := isAlphanumeric c || c = '_'

/-- A character that a name may begin with. -/
def isNameStart (c : Char) : Bool := isLetter c || c = '_'

/-- The body of an interpreted literal and the text behind the quote that closes it. A backslash
takes the next character with it, whatever it is; an unpaired line end closes nothing. -/
def quotedBody? (mark : Char) : List Char → Option (List Char × List Char)
  | [] => none
  | '\\' :: c :: rest => (quotedBody? mark rest).map fun (body, rest) => ('\\' :: c :: body, rest)
  | c :: rest =>
    if c = mark then some ([], rest)
    else if c = '\n' || c = '\\' then none
    else (quotedBody? mark rest).map fun (body, rest) => (c :: body, rest)

/-- The body of a raw literal and the text behind the quote that closes it. -/
def rawBody? : List Char → Option (List Char × List Char)
  | [] => none
  | c :: rest =>
    if c = '\x60' then some ([], rest)
    else (rawBody? rest).map fun (body, rest) => (c :: body, rest)

/-- What a number is read as: its text, whether it holds a point or an exponent mark, and the text
behind it. -/
structure Digits where
  text : List Char
  isFloat : Bool
  rest : List Char
deriving DecidableEq

/-- The number goes on one character to the left. -/
def Digits.cons (c : Char) (d : Digits) : Digits := { d with text := c :: d.text }

/-- The number goes on to the left with a character that makes it a float. -/
def Digits.consFloat (c : Char) (d : Digits) : Digits := ⟨c :: d.text, true, d.rest⟩

/-- Whether the letter announces an exponent. -/
def isExponentMark (hex : Bool) (c : Char) : Bool :=
  (!hex && (c = 'e' || c = 'E')) || c = 'p' || c = 'P'

/-- Reads letters, digits, underscores and points. An exponent mark takes a sign with it; it cannot
be the last character of the source, where there is nothing to look at for a sign. -/
def digits? (hex : Bool) : List Char → Option Digits
  | [] => some ⟨[], false, []⟩
  | c :: rest =>
    if isNameCharacter c then
      if isExponentMark hex c then
        match rest with
        | [] => none
        | sign :: more =>
          if sign = '+' || sign = '-' then
            (digits? hex more).map fun d => (d.cons sign).consFloat c
          else
            (digits? hex (sign :: more)).map (Digits.consFloat c)
      else
        (digits? hex rest).map (Digits.cons c)
    else if c = '.' then
      (digits? hex rest).map (Digits.consFloat c)
    else
      some ⟨[], false, c :: rest⟩

/-- Whether the text begins with the marks of a hexadecimal number. -/
def isHex : List Char → Bool
  | '0' :: c :: _ => c = 'x' || c = 'X'
  | _ => false

/-- The kind of a number: an `i` at its end makes it imaginary. -/
def numberKind (d : Digits) : Token.Kind :=
  if d.text.getLast? = some 'i' then .imaginary else if d.isFloat then .float else .integer

/-- Whether a number begins here. -/
def beginsNumber : List Char → Bool
  | '.' :: c :: _ => isDigit c
  | c :: _ => isDigit c
  | [] => false

end Lexeme

/-- A lexeme. The body of a literal stands without its quotes. -/
inductive Lexeme
  | word (name : List Char)
  | number (kind : Token.Kind) (text : List Char)
  | string (body : List Char)
  | rawString (body : List Char)
  | rune (body : List Char)
  | operator (spelling : String)
deriving DecidableEq

namespace Lexeme

/-- The lexeme as it is written. -/
def text : Lexeme → List Char
  | word name => name
  | number _ text => text
  | string body => '\x22' :: (body ++ ['\x22'])
  | rawString body => '\x60' :: (body ++ ['\x60'])
  | rune body => '\x27' :: (body ++ ['\x27'])
  | operator spelling => spelling.toList

/-- The kind of the token: a word is a keyword if it spells one, and a name otherwise. -/
def kind : Lexeme → Token.Kind
  | word name => ((Keyword.ofSpelling? (String.ofList name)).map .keyword).getD .identifier
  | number kind _ => kind
  | string _ | rawString _ => .string
  | rune _ => .rune
  | operator spelling => .ofOperator spelling

/-- The value of the token. -/
def value : Lexeme → String
  | word name => String.ofList name
  | number _ text => String.ofList text
  | string body | rawString body | rune body => String.ofList body
  | operator spelling => spelling

/-- The token that the lexeme makes up at a place. -/
def token (x : Lexeme) (p : Position) : Token := ⟨x.kind, x.value, p⟩

/-- The lexeme that a text of at least one character begins with, and what is left. -/
def scan (c : Char) (rest : List Char) : Except Fault (Lexeme × List Char) :=
  if c = '\x22' then
    match quotedBody? c rest with
    | some (body, rest) => .ok (string body, rest)
    | none => .error .unterminatedString
  else if c = '\x60' then
    match rawBody? rest with
    | some (body, rest) => .ok (rawString body, rest)
    | none => .error .unterminatedRawString
  else if c = '\x27' then
    match quotedBody? c rest with
    | some (body, rest) => .ok (rune body, rest)
    | none => .error .unterminatedRune
  else if beginsNumber (c :: rest) then
    match digits? (isHex (c :: rest)) (c :: rest) with
    | some d => .ok (number (numberKind d) d.text, d.rest)
    | none => .error .truncatedExponent
  else if isNameStart c then
    .ok (word (c :: rest.takeWhile isNameCharacter), rest.dropWhile isNameCharacter)
  else if ['/', '*'].isPrefixOf (c :: rest) then
    -- a gap would have taken a comment that ends
    .error .unterminatedComment
  else
    match operator? (c :: rest) with
    | some op => .ok (operator op, (c :: rest).drop op.toList.length)
    | none => .error (.unexpected c)

variable {c mark : Char} {s rest body : List Char} {x : Lexeme} {hex : Bool} {d : Digits}

theorem quotedBody?_text (h : quotedBody? mark s = some (body, rest)) :
    body ++ mark :: rest = s := by
  fun_induction quotedBody? mark s generalizing body with
  | case1 => simp at h
  | case2 c s ih =>
    obtain ⟨⟨b, r⟩, hb, heq⟩ := Option.map_eq_some_iff.1 h
    simp only [Prod.mk.injEq] at heq
    obtain ⟨rfl, rfl⟩ := heq
    simp [ih hb]
  | case3 s hs =>
    simp at h
    simp [h]
  | case4 => simp at h
  | case5 c s _ _ _ ih =>
    obtain ⟨⟨b, r⟩, hb, heq⟩ := Option.map_eq_some_iff.1 h
    simp only [Prod.mk.injEq] at heq
    obtain ⟨rfl, rfl⟩ := heq
    simp [ih hb]

theorem rawBody?_text (h : rawBody? s = some (body, rest)) : body ++ '\x60' :: rest = s := by
  induction s generalizing body with
  | nil => simp [rawBody?] at h
  | cons c s ih =>
    rw [rawBody?] at h
    split at h
    · rename_i hc
      simp at h
      simp [h, hc]
    · obtain ⟨⟨b, r⟩, hb, heq⟩ := Option.map_eq_some_iff.1 h
      simp only [Prod.mk.injEq] at heq
      obtain ⟨rfl, rfl⟩ := heq
      simp [ih hb]

theorem digits?_text (h : digits? hex s = some d) : d.text ++ d.rest = s := by
  fun_induction digits? hex s generalizing d with
  | case1 => simp at h; simp [← h]
  | case2 => simp at h
  | case3 c _ _ sign more _ ih =>
    obtain ⟨e, he, rfl⟩ := Option.map_eq_some_iff.1 h
    simp [Digits.cons, Digits.consFloat, ih he]
  | case4 c _ _ sign more _ ih =>
    obtain ⟨e, he, rfl⟩ := Option.map_eq_some_iff.1 h
    simp [Digits.consFloat, ih he]
  | case5 c _ _ _ ih =>
    obtain ⟨e, he, rfl⟩ := Option.map_eq_some_iff.1 h
    simp [Digits.cons, ih he]
  | case6 _ _ ih =>
    obtain ⟨e, he, rfl⟩ := Option.map_eq_some_iff.1 h
    simp [Digits.consFloat, ih he]
  | case7 => simp at h; simp [← h]

/-- A number has at least one character: it begins with a digit or a point. -/
theorem digits?_text_ne_nil (hb : beginsNumber s) (h : digits? hex s = some d) : d.text ≠ [] := by
  cases s with
  | nil => simp [beginsNumber] at hb
  | cons c s =>
    have hc : isNameCharacter c ∨ c = '.' := by
      by_cases hdot : c = '.'
      · exact .inr hdot
      · refine .inl ?_
        have : isDigit c := by
          unfold beginsNumber at hb
          split at hb
          · rename_i heq; simp_all
          · rename_i heq; simp_all
          · simp at hb
        simp [isNameCharacter, isAlphanumeric_of_isDigit this]
    rw [digits?.eq_def] at h
    split at h
    · simp_all
    · rename_i c' rest heq
      obtain ⟨rfl, rfl⟩ := List.cons.inj heq
      split at h
      · split at h
        · split at h
          · simp at h
          · split at h
            all_goals
              obtain ⟨e, -, rfl⟩ := Option.map_eq_some_iff.1 h
              simp [Digits.consFloat]
        · obtain ⟨e, -, rfl⟩ := Option.map_eq_some_iff.1 h
          simp [Digits.cons]
      · split at h
        · obtain ⟨e, -, rfl⟩ := Option.map_eq_some_iff.1 h
          simp [Digits.consFloat]
        · simp_all

theorem operator?_text {op : String} (h : operator? s = some op) :
    op.toList ++ s.drop op.toList.length = s := by
  have hp : op.toList.isPrefixOf s := by
    have := List.find?_some h
    exact this
  obtain ⟨t, rfl⟩ := List.isPrefixOf_iff_prefix.1 hp
  simp

theorem operator?_ne_nil {op : String} (h : operator? s = some op) : op.toList ≠ [] := by
  have hall : ∀ op ∈ operators, op.toList ≠ [] := by decide
  exact hall op (List.mem_of_find?_eq_some h)

theorem scan_text (h : scan c s = .ok (x, rest)) : x.text ++ rest = c :: s := by
  unfold scan at h
  split at h
  · split at h
    · rename_i hc _ _ _ hq
      simp only [Except.ok.injEq, Prod.mk.injEq] at h
      obtain ⟨rfl, rfl⟩ := h
      simp [text, ← quotedBody?_text hq, hc]
    · simp at h
  split at h
  · split at h
    · rename_i hc _ _ _ hq
      simp only [Except.ok.injEq, Prod.mk.injEq] at h
      obtain ⟨rfl, rfl⟩ := h
      simp [text, ← rawBody?_text hq, hc]
    · simp at h
  split at h
  · split at h
    · rename_i hc _ _ _ hq
      simp only [Except.ok.injEq, Prod.mk.injEq] at h
      obtain ⟨rfl, rfl⟩ := h
      simp [text, ← quotedBody?_text hq, hc]
    · simp at h
  split at h
  · split at h
    · rename_i hd
      simp only [Except.ok.injEq, Prod.mk.injEq] at h
      obtain ⟨rfl, rfl⟩ := h
      exact digits?_text hd
    · simp at h
  split at h
  · simp only [Except.ok.injEq, Prod.mk.injEq] at h
    obtain ⟨rfl, rfl⟩ := h
    simp [text, List.takeWhile_append_dropWhile]
  split at h
  · simp at h
  split at h
  · rename_i ho
    simp only [Except.ok.injEq, Prod.mk.injEq] at h
    obtain ⟨rfl, rfl⟩ := h
    exact operator?_text ho
  · simp at h

theorem scan_ne_nil (h : scan c s = .ok (x, rest)) : x.text ≠ [] := by
  unfold scan at h
  split at h
  · split at h
    · simp only [Except.ok.injEq, Prod.mk.injEq] at h
      simp [← h.1, text]
    · simp at h
  split at h
  · split at h
    · simp only [Except.ok.injEq, Prod.mk.injEq] at h
      simp [← h.1, text]
    · simp at h
  split at h
  · split at h
    · simp only [Except.ok.injEq, Prod.mk.injEq] at h
      simp [← h.1, text]
    · simp at h
  split at h
  · split at h
    · rename_i hb _ _ hd
      simp only [Except.ok.injEq, Prod.mk.injEq] at h
      rw [← h.1]
      exact digits?_text_ne_nil hb hd
    · simp at h
  split at h
  · simp only [Except.ok.injEq, Prod.mk.injEq] at h
    simp [← h.1, text]
  split at h
  · simp at h
  split at h
  · rename_i ho
    simp only [Except.ok.injEq, Prod.mk.injEq] at h
    rw [← h.1]
    exact operator?_ne_nil ho
  · simp at h

theorem scan_length (h : scan c s = .ok (x, rest)) : rest.length ≤ s.length := by
  have hl := congrArg List.length (scan_text h)
  have hx := List.length_pos_iff.2 (scan_ne_nil h)
  rw [List.length_append, List.length_cons] at hl
  omega

end Lexeme

end GoFixtures.Go
