import GoFixtures.Calendar
import GoFixtures.Text.Integer
import GoFixtures.Text.Quoted
import GoFixtures.Yaml.Cursor

/-!
# Errors of documents

What keeps a text from being a document, with the place where it was noticed; and what keeps a scalar that is
written in order from having a value.
-/

namespace GoFixtures.Yaml

/-- Why there is no value for something that is written in order. -/
inductive ScalarError
  | noCodePoint
  | oversizedCodePoint
  | oversizedInteger (digits : Nat)
  | notInteger (base : Nat) (codes : List Nat)
  | notDouble (codes : List Nat)
  | oversizedDouble
  | noCharacter
  | notBoolean (word : List Nat)
  | notTimestamp
  | timestampOfMapping
  | calendar (fault : CalendarFault)
  | endless
deriving DecidableEq

namespace ScalarError

/-- How many characters of a quotation a message shows. -/
def shownLength : Nat := 200

/-- The error in words. -/
def message : ScalarError → String
  | noCodePoint => "chr() arg not in range(0x110000)"
  | oversizedCodePoint => "Python int too large to convert to C int"
  | oversizedInteger digits => Text.tooManyDigits digits
  | notInteger base codes =>
    "invalid literal for int() with base " ++ toString base ++ ": "
      ++ String.ofList ((Text.quoteCodes codes).toList.take shownLength)
  | notDouble codes => "could not convert string to float: " ++ Text.quoteCodes codes
  | oversizedDouble => "int too large to convert to float"
  | noCharacter => "string index out of range"
  | notBoolean word => Text.quoteCodes word
  | notTimestamp => "'NoneType' object has no attribute 'groupdict'"
  | timestampOfMapping => "expected string or bytes-like object, got 'list'"
  | calendar fault => fault.message
  | endless => "maximum recursion depth exceeded"

end ScalarError

/-- What is wrong with a document. -/
inductive Reason
  | unprintable
  | unclosedKey
  | misplacedEntry
  | misplacedKey
  | misplacedValue
  | badStart (found : Char)
  | unclosedQuote
  | documentInQuote
  | badEscape
  | badDirective
  | badName
  | badTag
  | badHeader
  | noContent
  | unclosedBlock
  | unclosedFlow
  | noDocument
  | badVersion
  | repeatedDirective
  | unknownHandle (handle : String)
  | unknownAlias (name : String)
  | repeatedAnchor (name : String)
  | secondDocument
  | unknownTag
  | notScalar
  | notSequence
  | notMapping
  | badPair
  | badMerge
  | badKey
  | badBinary
  | noValue (cause : ScalarError)
deriving DecidableEq

namespace Reason

/-- The reason in words. -/
def message : Reason → String
  | unprintable => "special characters are not allowed"
  | unclosedKey => "could not find expected ':'"
  | misplacedEntry => "sequence entries are not allowed here"
  | misplacedKey => "mapping keys are not allowed here"
  | misplacedValue => "mapping values are not allowed here"
  | badStart c => "found character '" ++ String.ofList [c] ++ "' that cannot start any token"
  | unclosedQuote => "found unexpected end of stream in a quoted scalar"
  | documentInQuote => "found unexpected document separator in a quoted scalar"
  | badEscape => "found an unknown escape in a quoted scalar"
  | badDirective => "found a malformed directive"
  | badName => "expected the name of an anchor"
  | badTag => "found a malformed tag"
  | badHeader => "found a malformed block scalar header"
  | noContent => "expected the content of a node"
  | unclosedBlock => "expected the end of a block"
  | unclosedFlow => "expected ',' or a closing bracket"
  | noDocument => "expected the start of a document"
  | badVersion => "found an incompatible document (version 1.* is required)"
  | repeatedDirective => "found a repeated directive"
  | unknownHandle handle => "found undefined tag handle '" ++ handle ++ "'"
  | unknownAlias name => "found undefined alias '" ++ name ++ "'"
  | repeatedAnchor name => "found duplicate anchor '" ++ name ++ "'"
  | secondDocument => "expected a single document in the stream"
  | unknownTag => "could not determine the value of a tag"
  | notScalar => "expected a scalar node"
  | notSequence => "expected a sequence node"
  | notMapping => "expected a mapping node"
  | badPair => "expected mappings of one key"
  | badMerge => "expected a mapping or a list of mappings for merging"
  | badKey => "found unhashable key"
  | badBinary => "failed to decode base64 data"
  | noValue cause => cause.message

end Reason

/-- What is wrong and where; lines and columns count from zero. -/
structure Error where
  reason : Reason
  line : Nat
  column : Nat
deriving DecidableEq

namespace Error

/-- An error at a cursor. -/
def here (reason : Reason) (c : Cursor) : Error := ⟨reason, c.line, c.column⟩

/-- The error in words. -/
def message (e : Error) : String :=
  e.reason.message ++ ": line " ++ toString (e.line + 1) ++ ", column " ++ toString (e.column + 1)

end Error

end GoFixtures.Yaml
