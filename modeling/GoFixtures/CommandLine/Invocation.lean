import GoFixtures.CommandLine.Argument

/-!
# Invocations

What is asked for on a command line: help, or a command with its settings.

* `Invocation.ofArguments` reads all arguments. Arguments that mean nothing are a fault only if there is no other.
-/

namespace GoFixtures.CommandLine

open Text

/-- What the fixtures of a package are made with. -/
structure GenerateSettings where
  directory : String
  source : Option String
  model : Option String
  outputPackage : Option String
  output : Option String
  qualifier : Option String
  insertion : Option String
  isClassic : Bool
  config : Option String
  isUnformatted : Bool
deriving DecidableEq

/-- What the model of a package is written with. -/
structure ModelSettings where
  directory : String
  source : Option String
  output : Option String
deriving DecidableEq

/-- What the playground is served with. -/
structure ServeSettings where
  directory : String
  config : Option String
  host : String
  port : Int
deriving DecidableEq

/-- What is asked for. -/
inductive Invocation
  | help (command : Option Command)
  | generate (settings : GenerateSettings)
  | model (settings : ModelSettings)
  | serve (settings : ServeSettings)
deriving DecidableEq

/-- A fault, and the command whose arguments have it. -/
structure UsageError where
  command : Option Command
  fault : UsageFault
deriving DecidableEq

/-- The name of the program. -/
def programName : String := "fixturegen"

/-- The program with a command. -/
def programWith : Option Command → String
  | none => programName
  | some c => programName ++ " " ++ c.spelling

namespace UsageError

/-- The error in words. -/
def message (e : UsageError) : String := programWith e.command ++ ": error: " ++ e.fault.message

end UsageError

/-- What has been read of the arguments of a command. -/
structure Choices where
  directory : Option String
  values : List (Setting × String)
  port : Option Int
  others : List String
deriving DecidableEq

namespace Choices

/-- Nothing has been read. -/
def none : Choices := ⟨Option.none, [], Option.none, []⟩

/-- The value of an option; the last one counts. -/
def value? (c : Choices) (s : Setting) : Option String :=
  (c.values.reverse.find? fun v => v.1 = s).map Prod.snd

/-- Whether an option is given. -/
def has (c : Choices) (s : Setting) : Bool := (c.value? s).isSome

/-- Sets a value, unless another option forbids it. -/
def set (c : Choices) (s : Setting) (value : String) : Except UsageFault Choices :=
  match c.values.find? fun v => s.excludes v.1 with
  | some (other, _) => .error (.excluded s other)
  | Option.none =>
    if s = .port then
      match integerOf? value with
      | some n => .ok { c with port := some n }
      | Option.none => .error (.notInteger s value)
    else .ok { c with values := c.values ++ [(s, value)] }

/-- A word that is no value of an option: the first one is the directory. -/
def addWord (c : Choices) (w : String) : Choices :=
  match c.directory with
  | Option.none => { c with directory := some w }
  | some _ => { c with others := c.others ++ [w] }

end Choices

/-- What comes of reading arguments: choices, or a call for help. -/
inductive Outcome
  | help
  | choices (c : Choices)
deriving DecidableEq

/-- Reads arguments. Two dashes mean nothing themselves before or behind the directory, and are one more
argument anywhere else. -/
def choose (c : Choices) : List Argument → Except UsageFault Outcome
  | [] => .ok (.choices c)
  | .separator :: rest =>
    if c.directory.isNone then choose c rest else choose { c with others := c.others ++ ["--"] } rest
  | .word w :: .separator :: rest =>
    if c.directory.isNone then choose { c with directory := some w } rest
    else choose { c with others := c.others ++ [w, "--"] } rest
  | .word w :: rest => choose (c.addWord w) rest
  | .unknown s :: rest => choose { c with others := c.others ++ [s] } rest
  | .letters attached :: _ =>
    match Argument.lettersFault? attached with
    | some fault => .error fault
    | none => .ok .help
  | .option s (some value) :: rest =>
    if s.takesValue then do choose (← c.set s value) rest else .error (.valueIgnored s value)
  | .option s none :: .word value :: rest =>
    if s.takesValue then do choose (← c.set s value) rest
    else if s = .help then .ok .help
    else do choose (← c.set s "") (.word value :: rest)
  | .option s none :: rest =>
    if s.takesValue then .error (.valueMissing s)
    else if s = .help then .ok .help
    else do choose (← c.set s "") rest
termination_by args => args.length

namespace Command

/-- The invocation of a command with choices. -/
def invoke (command : Command) (c : Choices) : Invocation :=
  let directory := c.directory.getD "."
  match command with
  | generate => .generate {
      directory
      source := c.value? .source
      model := c.value? .model
      outputPackage := c.value? .outputPackage
      output := c.value? .output
      qualifier := c.value? .qualifier
      insertion := c.value? .insertion
      isClassic := c.has .classic
      config := c.value? .config
      isUnformatted := c.has .unformatted }
  | model => .model ⟨directory, c.value? .source, c.value? .output⟩
  | serve => .serve ⟨directory, c.value? .config, (c.value? .host).getD "127.0.0.1", c.port.getD 8050⟩

/-- Reads the arguments of a command; the arguments that mean nothing are returned with the invocation. -/
def read (command : Command) (arguments : List String) : Except UsageFault (Invocation × List String) := do
  match ← choose .none (← Argument.classifyAll command.settings arguments) with
  | .help => return (.help (some command), [])
  | .choices c => return (command.invoke c, c.others)

end Command

namespace Invocation

/-- Refuses arguments that mean nothing. -/
def checked (others : List String) (i : Invocation) : Except UsageError Invocation :=
  match others, i with
  | _, help (some command) => .ok (help (some command))
  | [], i => .ok i
  | others, _ => .error ⟨none, .unrecognized others⟩

/-- Reads the arguments from the first one on, with those before that mean nothing. -/
def readFrom (others : List String) : List String → Except UsageError Invocation
  | [] => checked others (help none)
  | s :: ss =>
    match Argument.classify outerSettings s with
    | .error fault => .error ⟨none, fault⟩
    | .ok (.word w) =>
      match Command.ofString? w with
      | none => .error ⟨none, .unknownCommand w⟩
      | some command =>
        match command.read ss with
        | .error fault => .error ⟨some command, fault⟩
        | .ok (i, more) => checked (others ++ more) i
    | .ok .separator =>
      if ss.isEmpty then checked (others ++ [s]) (help none) else .error ⟨none, .unknownCommand s⟩
    | .ok (.option o (some value)) => .error ⟨none, .valueIgnored o value⟩
    | .ok (.option _ none) => .ok (help none)
    | .ok (.letters attached) =>
      match Argument.lettersFault? attached with
      | some fault => .error ⟨none, fault⟩
      | none => .ok (help none)
    | .ok (.unknown s) => readFrom (others ++ [s]) ss

/-- What the arguments of the program ask for. -/
def ofArguments (arguments : List String) : Except UsageError Invocation := readFrom [] arguments

end Invocation

end GoFixtures.CommandLine
