import ImageSelect.Logging.Record
import ImageSelect.Output
import ImageSelect.Path

/-!
# Where log records go

The loggers of the library are one logger and those below it.  Setting up
gives that logger a level and new handlers: one for the console, and one for
a file if a file is named.  A record goes to every handler whose level it
reaches, if it reaches the level in force.

A logger of something else has no handlers.  A record that meets no handler
is still shown, without its level and logger, if it is a warning or more.

`Call` lists what a program asks of logging, and `Call.runAll` does it call by
call.
-/

namespace ImageSelect.Logging

/-- The name of the library's logger. -/
def rootLogger : String := "imageset"

/-- Whether a logger is the library's or below it. -/
def isOwn (logger : String) : Bool :=
  logger = rootLogger || (rootLogger ++ ".").toList.isPrefixOf logger.toList

/-- Where a handler writes. -/
inductive Sink where
  | console
  | file (path : String)
  deriving Repr, DecidableEq

/-- A handler. -/
structure Handler where
  sink : Sink
  level : Level
  deriving Repr, DecidableEq

/-- The level and the handlers of the library's logger. -/
structure Setup where
  level : Level := 0
  handlers : List Handler := []
  deriving Repr, DecidableEq

/-- A level as it is asked for. -/
inductive LevelChoice where
  | number (level : Level)
  | named (name : String)
  deriving Repr, DecidableEq

/-- The level that is asked for. -/
def LevelChoice.level? : LevelChoice → Option Level
  | .number level => some level
  | .named name => levelNamed? name

/-- How a record shows the level that was asked for: by name if it was given
as a number, and as a number if it was given by name. -/
def LevelChoice.shown : LevelChoice → String
  | .number level => levelName level
  | .named name =>
    match levelNamed? name with
    | some level => toString level
    | none => "Level " ++ name

/-- The line of a record. -/
def Record.line (time : String) (r : Record) : String :=
  time ++ " - " ++ r.logger ++ " - " ++ levelName r.level ++ " - " ++ r.message ++ "\n"

variable [CurrentDirectory]

namespace Setup

/-- The level in force at the library's loggers.  Zero is no level of its
own: warnings and more pass. -/
def threshold (s : Setup) : Level :=
  if s.level = 0 then Level.warning else s.level

/-- Whether a logger lets a record pass.  Records of level zero and below
never pass. -/
def lets (s : Setup) (r : Record) : Bool :=
  0 < r.level && (if isOwn r.logger then s.threshold else Level.warning) ≤ r.level

/-- The handlers of a logger. -/
def handlersOf (s : Setup) (logger : String) : List Handler :=
  if isOwn logger then s.handlers else []

/-- Writes a record to a handler, if it reaches the handler's level. -/
def deliver (time : String) (r : Record) (out : Output) (h : Handler) : Output :=
  if h.level ≤ r.level then
    match h.sink with
    | .console => out.report (r.line time)
    | .file path => out.append path (r.line time)
  else out

/-- Logs a record. -/
def log (s : Setup) (time : String) (out : Output) (r : Record) : Output :=
  if s.lets r then
    match s.handlersOf r.logger with
    | [] => if Level.warning ≤ r.level then out.report (r.message ++ "\n") else out
    | handlers => handlers.foldl (deliver time r) out
  else out

/-- Logs records in order. -/
def logAll (s : Setup) (time : String) (out : Output) (records : List Record) : Output :=
  records.foldl (s.log time) out

end Setup

/-- Why setting up fails. -/
inductive SetupError where
  | unknownLevel (name : String)
  | file (f : FileFailure)
  deriving Repr, DecidableEq

/-- What is said of it. -/
def SetupError.message : SetupError → String
  | .unknownLevel name => "Unknown level: " ++ Text.quoted name
  | .file f => f.message

/-- The path of a log file, made absolute. -/
def filePath (path : String) : String :=
  String.ofList (Path.ofChars path.toList).resolved.toChars

/-- The record that a setup is complete. -/
def configured (choice : LevelChoice) : Record :=
  ⟨.debug, rootLogger, "Logging configured at level " ++ choice.shown⟩

namespace Setup

/-- Whether a record would meet a handler: one of the logger, or one of a
logger above it, of which `above` says whether there is one. -/
def hasHandlers (s : Setup) (above : Bool) : Bool :=
  !s.handlers.isEmpty || above

/-- The setup with one more handler. -/
def add (s : Setup) (h : Handler) : Setup :=
  { s with handlers := s.handlers ++ [h] }

/-- The setup with a level, and with a handler for the console in place of the
handlers of before. -/
def renewed (s : Setup) (above : Bool) (level : Level) : Setup :=
  let s := { s with level }
  let s := if s.hasHandlers above then { s with handlers := [] } else s
  s.add ⟨.console, level⟩

end Setup

/-- Sets up logging.  `check` says why a file cannot be opened, and `above`
whether a logger above the library's has a handler.  A level that is not known
changes nothing; a file that cannot be opened leaves the console set up. -/
def configure (check : String → Option OpenError) (time : String) (before : Setup)
    (out : Output) (choice : LevelChoice) (file : Option String) (above : Bool := false) :
    Except SetupError Unit × Setup × Output :=
  match choice.level? with
  | none =>
    let name := match choice with
      | .named name => name
      | .number _ => ""
    (.error (.unknownLevel name), before, out)
  | some level =>
    let s := before.renewed above level
    match (file.filter (· != "")).map filePath with
    | none => (.ok (), s, s.log time out (configured choice))
    | some path =>
      match check path with
      | some why => (.error (.file ⟨path, why⟩), s, out)
      | none =>
        let s := s.add ⟨.file path, level⟩
        (.ok (), s, s.log time (out.append path "") (configured choice))

/-- What a call meets: the time, why files cannot be opened, and whether a
logger above the library's has a handler. -/
structure Moment where
  time : String
  check : String → Option OpenError
  above : Bool := false

/-- A call: to set up logging, or to log a record. -/
inductive Call where
  | setup (choice : LevelChoice) (file : Option String)
  | log (r : Record)
  deriving Repr, DecidableEq

/-- Makes a call: what comes of it, and the setup and the output after it. -/
def Call.run (now : Moment) (s : Setup) (out : Output) :
    Call → Except SetupError Unit × Setup × Output
  | .setup choice file => configure now.check now.time s out choice file now.above
  | .log r => (.ok (), s, s.log now.time out r)

/-- Makes one call after the other: what comes of each, and the setup and the
output after all of them. -/
def Call.runAll (s : Setup) (out : Output) :
    List (Moment × Call) → List (Except SetupError Unit) × Setup × Output
  | [] => ([], s, out)
  | (now, call) :: calls =>
    let (answer, s, out) := call.run now s out
    let (answers, s, out) := runAll s out calls
    (answer :: answers, s, out)

end ImageSelect.Logging
