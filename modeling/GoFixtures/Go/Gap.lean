import GoFixtures.Go.Position

/-!
# Gaps between lexemes

A gap is what may stand between two lexemes: blanks, line ends and comments. `Gap.scan` reads the
longest gap that a text begins with; `Gap.lineEnd?` is the place where it ends a line.

* `Gap.scan_text`: the gap and what is left make up the text.
* `Gap.scan_length`: what is left is not longer than the text.
-/

namespace GoFixtures.Go

namespace Gap

/-- One part of a gap. The body of a comment stands without its marks; that of a line comment
reaches up to the line end. -/
inductive Piece
  | blank (c : Char)
  | newline
  | lineComment (body : List Char)
  | blockComment (body : List Char)
deriving DecidableEq

namespace Piece

/-- The part as it is written. -/
def text : Piece → List Char
  | blank c => [c]
  | newline => ['\n']
  | lineComment body => '/' :: '/' :: body
  | blockComment body => '/' :: '*' :: (body ++ ['*', '/'])

/-- Whether the part acts like a line end: a comment that spans lines does. -/
def endsLine : Piece → Bool
  | newline => true
  | blockComment body => body.contains '\n'
  | _ => false

end Piece

/-- A space, a tab or a carriage return. -/
def isBlank (c : Char) : Bool := c = ' ' || c = '\t' || c = '\r'

/-- The body of a block comment, and the text behind its end mark, if it has one. -/
def blockBody? : List Char → Option (List Char × List Char)
  | [] => none
  | '*' :: '/' :: rest => some ([], rest)
  | c :: rest => (blockBody? rest).map fun (body, rest) => (c :: body, rest)

/-- The first part of a gap, and the text behind it. A block comment without an end is no part of
any gap. -/
def piece? : List Char → Option (Piece × List Char)
  | '\n' :: rest => some (.newline, rest)
  | '/' :: '/' :: rest => some (.lineComment (rest.takeWhile (· ≠ '\n')), rest.dropWhile (· ≠ '\n'))
  | '/' :: '*' :: rest => (blockBody? rest).map fun (body, rest) => (.blockComment body, rest)
  | c :: rest => if isBlank c then some (.blank c, rest) else none
  | [] => none

theorem blockBody?_text {s body rest : List Char} (h : blockBody? s = some (body, rest)) :
    body ++ '*' :: '/' :: rest = s := by
  fun_induction blockBody? s generalizing body with
  | case1 => simp at h
  | case2 => simp at h; simp [h]
  | case3 c s _ ih =>
    obtain ⟨⟨b, r⟩, hb, heq⟩ := Option.map_eq_some_iff.1 h
    simp only [Prod.mk.injEq] at heq
    obtain ⟨rfl, rfl⟩ := heq
    simp [ih hb]

theorem piece?_text {s rest : List Char} {p : Piece} (h : piece? s = some (p, rest)) :
    p.text ++ rest = s := by
  unfold piece? at h
  split at h
  · simp at h; simp [← h.1, ← h.2, Piece.text]
  · simp only [Option.some.injEq, Prod.mk.injEq] at h
    simp [← h.1, ← h.2, Piece.text, List.takeWhile_append_dropWhile]
  · obtain ⟨⟨b, r⟩, hb, heq⟩ := Option.map_eq_some_iff.1 h
    simp only [Prod.mk.injEq] at heq
    obtain ⟨rfl, rfl⟩ := heq
    simp [Piece.text, blockBody?_text hb]
  · split at h
    · simp at h; simp [← h.1, ← h.2, Piece.text]
    · simp at h
  · simp at h

theorem piece?_length {s rest : List Char} {p : Piece} (h : piece? s = some (p, rest)) :
    rest.length < s.length := by
  rw [← piece?_text h, List.length_append]
  have : 0 < p.text.length := by cases p <;> simp [Piece.text]
  omega

end Gap

/-- What stands between two lexemes, part by part. -/
abbrev Gap := List Gap.Piece

namespace Gap

/-- The gap as it is written. -/
def text (gap : Gap) : List Char := gap.flatMap Piece.text

/-- The longest gap that a text begins with, and what is left. -/
def scan (s : List Char) : Gap × List Char :=
  match h : piece? s with
  | none => ([], s)
  | some (p, rest) =>
    have := piece?_length h
    (p :: (scan rest).1, (scan rest).2)
termination_by s.length

/-- The place where a gap that begins at `p` first ends a line; a comment counts where it begins. -/
def lineEnd? (p : Position) : Gap → Option Position
  | [] => none
  | piece :: gap => if piece.endsLine then some p else lineEnd? (p.after piece.text) gap

@[simp]
theorem text_nil : text [] = [] := rfl

@[simp]
theorem text_cons {p : Piece} {gap : Gap} : text (p :: gap) = p.text ++ text gap := rfl

theorem scan_text (s : List Char) : (scan s).1.text ++ (scan s).2 = s := by
  fun_induction scan s with
  | case1 => rfl
  | case2 s p rest h _ ih => rw [text_cons, List.append_assoc, ih, piece?_text h]

theorem scan_length (s : List Char) : (scan s).2.length ≤ s.length := by
  have := congrArg List.length (scan_text s)
  rw [List.length_append] at this
  omega

end Gap

end GoFixtures.Go
