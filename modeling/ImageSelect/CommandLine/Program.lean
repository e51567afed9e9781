import ImageSelect.CommandLine.Inputs
import ImageSelect.CommandLine.Settings
import ImageSelect.Logging.Setup
import ImageSelect.Selection.Basic
import ImageSelect.Table.Tsv

/-!
# The program

The program checks its arguments, compiles the expression once so that a bad
one is reported at the start, sets up logging, reads the inputs, selects among
their candidates, and writes a table of the rows.

What it finds outside is handed in as `Surroundings`, and what it writes is
handed back, so that a run is a function.  The directory in which it reads
relative paths is the current one from its start to its end.
-/

namespace ImageSelect.CommandLine

/-- What a run finds outside. -/
structure Surroundings where
  /-- The time of log records. -/
  time : String
  /-- The bytes of a regular file. -/
  fileBytes? : String → Option (List UInt8)
  /-- Why a file cannot be opened for writing. -/
  openError? : String → Option OpenError

/-- Why a run breaks off. -/
inductive Breakdown where
  | pattern (why : Regex.Error)
  | selection (why : SelectError)
  | file (f : FileFailure)
  | undecodable (stop : Text.Utf8.Stop)

/-- How a run ends. -/
inductive Conclusion where
  | exit (status : Nat)
  | broken (why : Breakdown)

/-- A run: how it ends, and what it writes. -/
structure Outcome where
  conclusion : Conclusion
  output : Output

/-- What is wrong with settings. -/
inductive UsageError where
  | argument (e : ArgumentError)
  | seriesCount (n : Int)
  | frameCount (n : Int)
  | noInput
  | noUrlList (path : String)
  | emptyExpression
  | badExpression (why : String)
  deriving Repr, DecidableEq

/-- What is said of it. -/
def UsageError.message : UsageError → String
  | .argument e => e.message
  | .seriesCount n => "Series count must be positive (got: " ++ toString n ++ ")"
  | .frameCount n => "Frame count must be positive (got: " ++ toString n ++ ")"
  | .noInput => "Give at least one input or --url-list"
  | .noUrlList path => "URL list does not exist: " ++ path
  | .emptyExpression => "Filter expression cannot be empty"
  | .badExpression why => "Invalid filter expression: " ++ why

/-- The outcome of wrong usage. -/
def Outcome.wrongUsage (e : UsageError) : Outcome :=
  ⟨.exit 2, { stderr := usage ++ programName ++ ": error: " ++ e.message ++ "\n" }⟩

/-- The type of the candidates. -/
def Settings.candidateType (s : Settings) : ValueType :=
  if s.filesOnly then .file else .plane

variable [CurrentDirectory]

/-- Checks settings, all but the expression's meaning. -/
def Settings.check (s : Settings) (around : Surroundings) : Except UsageError Unit := do
  if s.seriesCount < 1 then throw (.seriesCount s.seriesCount)
  if s.frameCount < 1 then throw (.frameCount s.frameCount)
  match s.urlList? with
  | none => if s.inputs.isEmpty then throw .noInput
  | some path => if (around.fileBytes? path).isNone then throw (.noUrlList path)
  if (Unicode.strip s.expression.toList).isEmpty then throw .emptyExpression

/-- The bytes of the list of inputs after some output: the log may have gone to
the same file. -/
def Settings.listBytes? (s : Settings) (around : Surroundings) (out : Output) :
    Option (List UInt8) := do
  let path ← s.urlList?
  let bytes ← around.fileBytes? path
  return out.bytesOf path bytes

/-- All inputs: those of the arguments, then those of the list. -/
def Settings.allInputs (s : Settings) (around : Surroundings) (out : Output) :
    Except Text.Utf8.Stop (List String) :=
  match s.listBytes? around out with
  | none => .ok s.inputs
  | some bytes => (readList bytes).map (s.inputs ++ ·)

/-- All candidates. -/
def Settings.candidates (s : Settings) (inputs : List String) : List Value :=
  inputs.flatMap (candidatesOf s.filesOnly s.seriesCount.toNat s.frameCount.toNat)

/-- The record that a table has been written. -/
def writtenRecord (rows : Nat) (path : String) : Logging.Record :=
  ⟨.info, Logging.rootLogger, "Wrote " ++ toString rows ++ " rows to " ++ path⟩

/-- Writes the table of a selection. -/
def writeTable (s : Settings) (around : Surroundings) (setup : Logging.Setup) (out : Output)
    (selection : Selection) : Outcome :=
  let text := Tsv.table selection.keys selection.rows
  if s.output = "" then ⟨.exit 0, out.print text⟩
  else
    match around.openError? s.output with
    | some why => ⟨.broken (.file ⟨s.output, why⟩), out⟩
    | none =>
      let out := out.replace s.output text
      ⟨.exit 0, setup.log around.time out (writtenRecord selection.selected s.output)⟩

/-- Selects among the inputs' candidates and writes the table. -/
def selectAndWrite (s : Settings) (around : Surroundings) (setup : Logging.Setup)
    (out : Output) : Outcome :=
  match s.allInputs around out with
  | .error stop => ⟨.broken (.undecodable stop), out⟩
  | .ok inputs =>
    let type := s.candidateType
    let (result, session) :=
      (select s.expression (s.candidates inputs) (some (Extractor.forType type .shared)) type).run
        {}
    let out := setup.logAll around.time out session.records.toList
    match result with
    | .error why => ⟨.broken (.selection why), out⟩
    | .ok selection => writeTable s around setup out selection

/-- Runs with settings that have been checked. -/
def Settings.run (s : Settings) (around : Surroundings) : Outcome :=
  match Filter.compileText none s.candidateType s.expression with
  | .error (.expression why) => .wrongUsage (.badExpression why.message)
  | .error (.pattern why) => ⟨.broken (.pattern why), {}⟩
  | .ok _ =>
    match Logging.configure around.openError? around.time {} {} (.number (levelOf s.logLevel))
        s.logFile? with
    | (.error (.file f), _, out) => ⟨.broken (.file f), out⟩
    | (.error (.unknownLevel _), _, out) => ⟨.exit 2, out⟩
    | (.ok (), setup, out) => selectAndWrite s around setup out
where
  levelOf (name : String) : Logging.Level :=
    (Logging.levelNamed? name).getD .info

/-- Runs the program. -/
def run (arguments : List String) (around : Surroundings) : Outcome :=
  match Settings.ofArguments arguments with
  | .error .helpWanted => ⟨.exit 0, { stdout := help }⟩
  | .error (.wrong e) => .wrongUsage (.argument e)
  | .ok s =>
    match s.check around with
    | .error e => .wrongUsage e
    | .ok () => s.run around

end ImageSelect.CommandLine
