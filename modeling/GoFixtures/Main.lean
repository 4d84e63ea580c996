import GoFixtures.CommandLine.Run

/-!
# The program

The command line on the files of the machine that it runs on. No other program is started: code is left as it
is generated, and for the playground there is only the line that says where it would be.
-/

namespace GoFixtures.CommandLine

/-- Why the operating system refuses. -/
def faultOf : IO.Error → FileFault
  | .noFileOrDirectory _ _ _ => .notFound
  | .alreadyExists _ _ _ => .alreadyExists
  | .inappropriateType _ code _ => if code = 21 || code = 0 - 21 then .isDirectory else .notDirectory
  | .permissionDenied _ _ text => .other 13 text
  | e => .other 5 (toString e)

/-- A step that may be refused. -/
def attempt {α : Type} (p : Path) (step : IO α) : IO (Except FileError α) := do
  try
    return .ok (← step)
  catch e =>
    return .error ⟨faultOf e, p⟩

instance : Host IO where
  resolve p := do
    if p.hasNullByte then return .error (.file ⟨.nullByte, p⟩)
    else return .ok (Path.resolve (Path.ofString (← IO.currentDir).toString) p)
  isDirectory p := do return .ok (← ((← IO.currentDir) / p.toText).isDir)
  pathExists p := do return .ok (← ((← IO.currentDir) / p.toText).pathExists)
  list p := attempt p do return (← ((← IO.currentDir) / p.toText).readDir).toList.map fun e => e.fileName
  read p := attempt p do return (← IO.FS.readBinFile p.toText).toList
  makeDirectory p := attempt p (IO.FS.createDir p.toText)
  write p text := do return (← attempt p (IO.FS.writeFile p.toText text)).mapError .file
  print text := do
    try
      let output ← IO.getStdout
      output.putStr text
      output.flush
      return .ok ()
    catch e =>
      return .error (.refused 5 (toString e))
  format _ := return .missing

/-- Says what a run has to remark, and returns its exit code. -/
def Report.tell (r : Report) : IO UInt32 := do
  IO.eprint r.errors
  match r.ending with
  | .exit code => return code.toUInt32
  | .brokenOff e =>
    IO.eprintln e.message
    return 1

end GoFixtures.CommandLine

/-- The program. -/
def main (arguments : List String) : IO UInt32 := do
  (← GoFixtures.CommandLine.run arguments).tell
