import GoFixtures.Text.Integer
import GoFixtures.Text.Quoted

/-!
# Arguments

What the arguments of a command are: options and words. An option may be shortened as long as it is clear
which one is meant, and its value may follow behind an equals sign. What looks like a negative number or has a
space in it is a word, and so is everything behind two dashes.

* `Argument.classify` tells what an argument is among the options of a command.
-/

namespace GoFixtures.CommandLine

open Text

/-- The commands. -/
inductive Command
  | generate | model | serve
deriving DecidableEq

namespace Command

/-- All commands, in the order in which they are shown. -/
def all : List Command := [generate, model, serve]

/-- The word for a command. -/
def spelling : Command → String
  | generate => "generate"
  | model => "model"
  | serve => "serve"

/-- The command that a word stands for. -/
def ofString? (s : String) : Option Command := all.find? fun c => c.spelling = s

end Command

/-- What can be set by an option. -/
inductive Setting
  | help
  | source | model
  | outputPackage | output
  | qualifier | insertion
  | classic
  | config
  | unformatted
  | port | host
deriving DecidableEq

namespace Setting

/-- The option for a setting. -/
def spelling : Setting → String
  | help => "--help"
  | source => "--source"
  | model => "--model"
  | outputPackage => "--outpkg"
  | output => "--out"
  | qualifier => "--type-prefix"
  | insertion => "--func-infix"
  | classic => "--classic"
  | config => "--config"
  | unformatted => "--no-format"
  | port => "--port"
  | host => "--host"

/-- The option as it is named in messages. -/
def shown : Setting → String
  | help => "-h/--help"
  | s => s.spelling

/-- Whether the option takes a value. -/
def takesValue : Setting → Bool
  | help | classic | unformatted => false
  | _ => true

/-- Whether two options cannot stand together. -/
def excludes : Setting → Setting → Bool
  | source, model => true
  | model, source => true
  | _, _ => false

end Setting

/-- The options of a command. -/
def Command.settings : Command → List Setting
  | .generate =>
    [.help, .source, .model, .outputPackage, .output, .qualifier, .insertion, .classic, .config, .unformatted]
  | .model => [.help, .source, .output]
  | .serve => [.help, .config, .port, .host]

/-- The options that stand before a command. -/
def outerSettings : List Setting := [.help]

/-- What is wrong with the arguments. -/
inductive UsageFault
  | ambiguous (argument : String) (candidates : List Setting)
  | valueMissing (setting : Setting)
  | valueIgnored (setting : Setting) (value : String)
  | excluded (setting other : Setting)
  | notInteger (setting : Setting) (value : String)
  | unknownCommand (word : String)
  | unrecognized (arguments : List String)
deriving DecidableEq

namespace UsageFault

/-- The fault in words. -/
def message : UsageFault → String
  | ambiguous argument candidates =>
    "ambiguous option: " ++ argument ++ " could match " ++ ", ".intercalate (candidates.map Setting.spelling)
  | valueMissing s => "argument " ++ s.shown ++ ": expected one argument"
  | valueIgnored s value => "argument " ++ s.shown ++ ": ignored explicit argument " ++ quote value
  | excluded s other => "argument " ++ s.shown ++ ": not allowed with argument " ++ other.shown
  | notInteger s value => "argument " ++ s.shown ++ ": invalid int value: " ++ quote value
  | unknownCommand word =>
    "argument COMMAND: invalid choice: " ++ quote word ++ " (choose from "
      ++ ", ".intercalate (Command.all.map fun c => quote c.spelling) ++ ")"
  | unrecognized arguments => "unrecognized arguments: " ++ " ".intercalate arguments

end UsageFault

/-- An argument: a word, two dashes, an option that may have a value attached to it, or what looks like an
option. Help is asked for with one letter, too, and then further letters may be attached. -/
inductive Argument
  | word (text : String)
  | separator
  | option (setting : Setting) (attached : Option String)
  | letters (attached : List Char)
  | unknown (text : String)
deriving DecidableEq

namespace Argument

/-- Whether a text is a negative number. -/
def isNegative (cs : List Char) : Bool :=
  match cs with
  | '-' :: ds =>
    let whole := ds.takeWhile isDecimal
    match ds.drop whole.length with
    | [] => !whole.isEmpty
    | '.' :: fraction => !fraction.isEmpty && fraction.all isDecimal
    | _ => false
  | _ => false

/-- A text before its first equals sign, and what stands behind that. -/
def splitValue (cs : List Char) : List Char × Option String :=
  let before := cs.takeWhile (· ≠ '=')
  match cs.drop before.length with
  | [] => (before, none)
  | _ :: value => (before, some (String.ofList value))

/-- What looks like an option and is none. -/
def other (s : String) : Argument :=
  if isNegative s.toList || s.toList.contains ' ' then word s else unknown s

/-- The option that is spelled with a beginning of its name. -/
def abbreviated (settings : List Setting) (s : String) : Except UsageFault Argument :=
  let (before, attached) := splitValue s.toList
  match settings.filter fun o => before.isPrefixOf o.spelling.toList with
  | [] => .ok (other s)
  | [o] => .ok (option o attached)
  | candidates => .error (.ambiguous s candidates)

/-- What an argument is among options. -/
def classify (settings : List Setting) (s : String) : Except UsageFault Argument :=
  match s.toList with
  | ['-', '-'] => .ok separator
  | ['-', 'h'] => .ok (option .help none)
  | '-' :: 'h' :: attached => .ok (letters attached)
  | '-' :: '-' :: _ =>
    let (before, attached) := splitValue s.toList
    match settings.find? fun o => o.spelling = s, settings.find? fun o => o.spelling.toList = before with
    | some o, _ => .ok (option o none)
    | none, some o => .ok (option o attached)
    | none, none => abbreviated settings s
  | '-' :: _ :: _ => .ok (other s)
  | _ => .ok (word s)

/-- What arguments are; all are words behind two dashes. -/
def classifyAll (settings : List Setting) : List String → Except UsageFault (List Argument)
  | [] => .ok []
  | s :: ss => do
    match ← classify settings s with
    | separator => return separator :: ss.map word
    | a => return a :: (← classifyAll settings ss)

/-- What letters behind the one for help are: more of the same, or a value that there is no use for. Other
letters are passed over. -/
def lettersFault? : List Char → Option UsageFault
  | [] => none
  | '=' :: value => some (.valueIgnored .help (String.ofList value))
  | '-' :: value => some (.valueIgnored .help (String.ofList ('-' :: value)))
  | 'h' :: rest => lettersFault? rest
  | _ => none

end Argument

end GoFixtures.CommandLine
