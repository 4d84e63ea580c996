import GoFixtures.Go.Gap
import GoFixtures.Go.Lexeme

/-!
# The layout of a source text

A source text is lexemes with gaps between them. `Layout.ofText` takes it apart without losing a
character, up to its end or to the first fault; `Layout.tokens` then gives every lexeme its place and
puts a semicolon wherever a line end stands for one.

* `Layout.ofText_text`: the layout of a text, written down again, is the text.
-/

namespace GoFixtures.Go

/-- A source text taken apart, from left to right. -/
inductive Layout
  | finish (gap : Gap)
  | fault (gap : Gap) (cause : Lexeme.Fault) (rest : List Char)
  | lexeme (gap : Gap) (x : Lexeme) (next : Layout)
deriving DecidableEq

/-- Why a text has no tokens, and where the lexeme at fault begins. -/
structure ScanError where
  cause : Lexeme.Fault
  position : Position
deriving DecidableEq

namespace ScanError

/-- Whether the fault is reported with its place; a truncated exponent goes unreported. -/
def isReported (e : ScanError) : Bool := e.cause ≠ .truncatedExponent

/-- The error in words. -/
def message (e : ScanError) : String :=
  if e.isReported then
    "Line " ++ toString e.position.line ++ ", column " ++ toString e.position.column ++ ": "
      ++ e.cause.message
  else
    e.cause.message

end ScanError

namespace Layout

/-- The text as it was. -/
def text : Layout → List Char
  | finish gap => gap.text
  | fault gap _ rest => gap.text ++ rest
  | lexeme gap x next => gap.text ++ x.text ++ next.text

/-- Takes a text apart. -/
def ofText (s : List Char) : Layout :=
  match hs : (Gap.scan s).2 with
  | [] => finish (Gap.scan s).1
  | c :: rest =>
    match hx : Lexeme.scan c rest with
    | .error cause => fault (Gap.scan s).1 cause (c :: rest)
    | .ok (x, next) =>
      have : next.length < s.length := by
        have hg := Gap.scan_length s
        have := Lexeme.scan_length hx
        rw [hs, List.length_cons] at hg
        omega
      lexeme (Gap.scan s).1 x (ofText next)
termination_by s.length

/-- The semicolon, if any, that a gap stands for. `ends` tells whether the token before the gap can
end a line, `last` whether the gap reaches up to the end of the text. -/
def semicolons (ends last : Bool) (p : Position) (gap : Gap) : List Token :=
  if ends then
    match gap.lineEnd? p with
    | some q => [.impliedSemicolon q]
    | none => if last then [.impliedSemicolon (p.after gap.text)] else []
  else
    []

/-- The tokens of a text that goes on at `p`, behind a token that can end a line or not. -/
def tokens (p : Position) (ends : Bool) : Layout → Except ScanError (List Token)
  | finish gap =>
    .ok (semicolons ends true p gap ++ [.finish (p.after gap.text)])
  | fault gap cause _ =>
    .error ⟨cause, p.after gap.text⟩
  | lexeme gap x next =>
    let q := p.after gap.text
    match tokens (q.after x.text) x.kind.endsLine next with
    | .ok ts => .ok (semicolons ends false p gap ++ x.token q :: ts)
    | .error e => .error e

theorem ofText_text (s : List Char) : (ofText s).text = s := by
  fun_induction ofText s with
  | case1 s hs =>
    have := Gap.scan_text s
    rw [hs, List.append_nil] at this
    exact this
  | case2 s c rest hs cause hx =>
    have := Gap.scan_text s
    rwa [hs] at this
  | case3 s c rest hs x next hx _ ih =>
    have := Gap.scan_text s
    rw [hs, ← Lexeme.scan_text hx] at this
    rw [text, ih, List.append_assoc]
    exact this

end Layout

namespace Token

/-- The tokens of a source text. The last one, and only that, stands for the end of the text. -/
def scan (source : String) : Except ScanError (List Token) :=
  (Layout.ofText source.toList).tokens .start false

end Token

end GoFixtures.Go
