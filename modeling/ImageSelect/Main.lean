import ImageSelect.CommandLine.Program
import Std.Time

/-!
# The executable

Reads the list of inputs, runs the program, and writes what it gives.  A file
that cannot be opened is told to the program, which then runs again.
-/

namespace ImageSelect.CommandLine

/-- The bytes of a file, if it can be read. -/
def readBytes? (path : String) : IO (Option (List UInt8)) := do
  try
    return some (← IO.FS.readBinFile path).toList
  catch _ => return none

/-- What an error of the file system means. -/
def openErrorOf : IO.Error → OpenError
  | .noFileOrDirectory .. => .missing
  | .inappropriateType .. => .isDirectory
  | _ => .denied

/-- The first of some files that cannot be opened, in the order in which they
are written. -/
def firstFailure : List OutputFile → IO (Option FileFailure)
  | [] => return none
  | file :: files => do
    try
      let _ ← IO.FS.Handle.mk file.path .append
      firstFailure files
    catch e => return some ⟨file.path, openErrorOf e⟩

/-- Writes what a run gives. -/
def perform (out : Output) : IO Unit := do
  (← IO.getStdout).putStr out.stdout
  (← IO.getStderr).putStr out.stderr
  for file in out.files do
    let handle ← IO.FS.Handle.mk file.path (if file.replaces then .write else .append)
    handle.putStr file.text

/-- What is outside: the list of inputs that arguments name, and the time. -/
def look (arguments : List String) : IO Surroundings := do
  let now ← Std.Time.PlainDateTime.now
  let list ←
    match Settings.ofArguments arguments with
    | .ok { urlList? := some path, .. } => readBytes? path
    | _ => pure none
  return {
    time := now.format "uuuu-MM-dd HH:mm:ss,SSS"
    fileBytes? := fun _ => list
    openError? := fun _ => none }

/-- What is said of a run that breaks off. -/
def Breakdown.message : Breakdown → String
  | .pattern why => why.message []
  | .selection why => why.message
  | .file f => f.message
  | .undecodable stop => stop.message

/-- Runs the program on its arguments: its exit status. -/
def execute (arguments : List String) : IO UInt32 := do
  let _ : CurrentDirectory := ⟨(← IO.currentDir).toString⟩
  let around ← look arguments
  let first := run arguments around
  let outcome ←
    match ← firstFailure first.output.files with
    | none => pure first
    | some f =>
      let openError? (path : String) : Option OpenError :=
        if Logging.filePath path = Logging.filePath f.path then some f.why else none
      pure (run arguments { around with openError? })
  perform outcome.output
  match outcome.conclusion with
  | .exit status => return UInt32.ofNat status
  | .broken why =>
    IO.eprintln why.message
    return 1

end ImageSelect.CommandLine

/-- The entry point. -/
def main (arguments : List String) : IO UInt32 :=
  ImageSelect.CommandLine.execute arguments
