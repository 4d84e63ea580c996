import GoFixtures.Go.Position

/-!
# Tokens of a Go file

* `Token.Kind` tells apart what a reader of declarations has to tell apart: the keywords, the three
  kinds of brackets, the marks, the literals and the names; every other operator is of one kind.
* `Token.Kind.endsLine` is the rule of the language for semicolons: behind such a token a line end
  stands for one.
-/

namespace GoFixtures.Go

/-- The reserved words of the language. -/
inductive Keyword
  | «break» | case | chan | const | «continue» | default | defer | «else» | fallthrough | «for»
  | func | go | goto | «if» | «import» | interface | map | package | range | «return»
  | select | struct | switch | type | var
deriving DecidableEq, Inhabited

namespace Keyword

/-- The keyword as it is written. -/
def spelling : Keyword → String
  | «break» => "break" | case => "case" | chan => "chan" | const => "const"
  | «continue» => "continue" | default => "default" | defer => "defer" | «else» => "else"
  | fallthrough => "fallthrough" | «for» => "for" | func => "func" | go => "go" | goto => "goto"
  | «if» => "if" | «import» => "import" | interface => "interface" | map => "map"
  | package => "package" | range => "range" | «return» => "return" | select => "select"
  | struct => "struct" | switch => "switch" | type => "type" | var => "var"

/-- Every keyword, in alphabetical order. -/
def all : List Keyword :=
  [«break», case, chan, const, «continue», default, defer, «else», fallthrough, «for», func, go,
    goto, «if», «import», interface, map, package, range, «return», select, struct, switch, type,
    var]

/-- The keyword that a word spells. -/
def ofSpelling? (word : String) : Option Keyword :=
  all.find? (·.spelling = word)

theorem mem_all (k : Keyword) : k ∈ all := by
  cases k <;> decide

end Keyword

/-- The three kinds of brackets. -/
inductive Bracket
  | paren | square | brace
deriving DecidableEq, Inhabited

namespace Bracket

/-- The bracket that opens a group. -/
def opening : Bracket → String
  | paren => "("
  | square => "["
  | brace => "\x7b"

/-- The bracket that closes a group. -/
def closing : Bracket → String
  | paren => ")"
  | square => "]"
  | brace => "\x7d"

end Bracket

/-- The operators and separators that declarations are made of. `step` is `++` or `--`. -/
inductive Mark
  | comma | dot | semicolon | star | assign | ellipsis | arrow | tilde | pipe | step
deriving DecidableEq

namespace Token

/-- What a token is. -/
inductive Kind
  | keyword (k : Keyword)
  | opening (b : Bracket)
  | closing (b : Bracket)
  | mark (m : Mark)
  | operator
  | string
  | rune
  | integer
  | float
  | imaginary
  | identifier
  | endOfFile
deriving DecidableEq, Inhabited

namespace Kind

/-- How a message names the kind: by its one spelling, or by a word in capitals. -/
def label : Kind → String
  | keyword k => k.spelling
  | opening b => b.opening
  | closing b => b.closing
  | mark .comma => "," | mark .dot => "." | mark .semicolon => ";" | mark .star => "*"
  | mark .assign => "=" | mark .ellipsis => "..." | mark .arrow => "<-" | mark .tilde => "~"
  | mark .pipe => "|" | mark .step => "INC_DEC"
  | operator => "OPERATOR"
  | string => "STRING"
  | rune => "CHAR"
  | integer => "INTEGER"
  | float => "FLOAT"
  | imaginary => "IMAGINARY"
  | identifier => "IDENTIFIER"
  | endOfFile => "EOF"

/-- Whether a line end behind a token of this kind stands for a semicolon. -/
def endsLine : Kind → Bool
  | identifier | string | rune | integer | float | imaginary => true
  | keyword .«break» | keyword .«continue» | keyword .fallthrough | keyword .«return» => true
  | mark .step => true
  | closing _ => true
  | _ => false

/-- The kind of an operator, by its spelling. -/
def ofOperator (spelling : String) : Kind :=
  match spelling with
  | "(" => opening .paren | ")" => closing .paren
  | "[" => opening .square | "]" => closing .square
  | "\x7b" => opening .brace | "\x7d" => closing .brace
  | "," => mark .comma | "." => mark .dot | ";" => mark .semicolon | "*" => mark .star
  | "=" => mark .assign | "..." => mark .ellipsis | "<-" => mark .arrow | "~" => mark .tilde
  | "|" => mark .pipe | "++" => mark .step | "--" => mark .step
  | _ => operator

end Kind

end Token

/-- A token and the place of its first character. The value is the text of the token; that of a
string or rune literal is the text between its quotes, escapes untouched, and that of a semicolon
which a line end stands for is the line end. -/
structure Token where
  kind : Token.Kind
  value : String
  position : Position
deriving DecidableEq, Inhabited

namespace Token

/-- The value of a semicolon that is not written in the source. -/
def lineEnd : String := "\n"

/-- The semicolon that a line end at `p` stands for. -/
def impliedSemicolon (p : Position) : Token := ⟨.mark .semicolon, lineEnd, p⟩

/-- The token behind the last character. -/
def finish (p : Position) : Token := ⟨.endOfFile, "", p⟩

end Token

end GoFixtures.Go
