import GoFixtures.CommandLine.Invocation

/-!
# Help

What the program says about its arguments.
-/

namespace GoFixtures.CommandLine

/-- Lines with a line break behind each. -/
def lines (ls : List String) : String := String.join (ls.map fun l => l ++ "\n")

/-- How the program or one of its commands is called. -/
def usage : Option Command → String
  | none => lines ["usage: fixturegen [-h] COMMAND ..."]
  | some .generate => lines [
      "usage: fixturegen generate [-h] [--source FILE | --model FILE] [--outpkg NAME]",
      "                           [--out FILE] [--type-prefix PREFIX]",
      "                           [--func-infix INFIX] [--classic] [--config FILE]",
      "                           [--no-format]",
      "                           [directory]"]
  | some .model => lines ["usage: fixturegen model [-h] [--source FILE] [--out FILE] [directory]"]
  | some .serve => lines [
      "usage: fixturegen serve [-h] [--config FILE] [--port PORT] [--host HOST]",
      "                        [directory]"]

/-- What the program or one of its commands does, and what its arguments mean. -/
def description : Option Command → String
  | none => lines [
      "fixturegen - generate Go test fixtures from type declarations",
      "",
      "positional arguments:",
      "  COMMAND",
      "    generate  Generate fixture functions for a Go package",
      "    model     Dump the extracted type model as JSON",
      "    serve     Launch the fixture generator playground",
      "",
      "options:",
      "  -h, --help  show this help message and exit"]
  | some .generate => lines [
      "Generate one fixture function per record, enumeration and alias type.",
      "",
      "positional arguments:",
      "  directory             Directory containing the Go package (default: current",
      "                        directory)",
      "",
      "options:",
      "  -h, --help            show this help message and exit",
      "  --source FILE         Read type declarations from a single Go file instead",
      "                        of a package",
      "  --model FILE          Read the type model from a JSON artifact written by",
      "                        'fixturegen model'",
      "  --outpkg NAME         Package name of the generated file",
      "  --out FILE            Output file path (prints to stdout if not specified)",
      "  --type-prefix PREFIX  Qualifier for emitted type names",
      "  --func-infix INFIX    Infix for fixture function names",
      "  --classic             Emit value-returning fixtures without mutators",
      "  --config FILE         Configuration file (default:",
      "                        DIRECTORY/.fixturegen.yaml when present)",
      "  --no-format           Skip formatting the output with gofmt"]
  | some .model => lines [
      "Extract the type model and write it as a JSON artifact.",
      "",
      "positional arguments:",
      "  directory      Directory containing the Go package (default: current",
      "                 directory)",
      "",
      "options:",
      "  -h, --help     show this help message and exit",
      "  --source FILE  Read a single Go file instead of a package",
      "  --out FILE     Output file path (prints to stdout if not specified)"]
  | some .serve => lines [
      "Launch a web UI that generates fixtures from pasted Go source.",
      "",
      "positional arguments:",
      "  directory      Directory whose .fixturegen.yaml supplies external types",
      "                 (default: current directory)",
      "",
      "options:",
      "  -h, --help     show this help message and exit",
      "  --config FILE  Configuration file (default: DIRECTORY/.fixturegen.yaml when",
      "                 present)",
      "  --port PORT    Port to run the server on (default: 8050)",
      "  --host HOST    Host to bind the server to (default: 127.0.0.1)"]

/-- The help for the program or for one of its commands. -/
def helpText (command : Option Command) : String := usage command ++ "\n" ++ description command

end GoFixtures.CommandLine
