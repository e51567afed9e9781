/-!
# Log records

A record has a level, the name of the logger that it is sent to, and a
message.  A level is a number; five of them have names.
-/

namespace ImageSelect.Logging

/-- A level. -/
abbrev Level := Int

namespace Level

def debug : Level := 10
def info : Level := 20
def warning : Level := 30
def error : Level := 40

end Level

/-- The name of a level in messages. -/
def levelName (level : Level) : String :=
  if level = 50 then "CRITICAL"
  else if level = 40 then "ERROR"
  else if level = 30 then "WARNING"
  else if level = 20 then "INFO"
  else if level = 10 then "DEBUG"
  else if level = 0 then "NOTSET"
  else "Level " ++ toString level

/-- The level that a name stands for. -/
def levelNamed? (name : String) : Option Level :=
  match name with
  | "CRITICAL" | "FATAL" => some 50
  | "ERROR" => some 40
  | "WARNING" | "WARN" => some 30
  | "INFO" => some 20
  | "DEBUG" => some 10
  | "NOTSET" => some 0
  | _ => none

/-- A log record. -/
structure Record where
  level : Level
  logger : String
  message : String
  deriving Repr, DecidableEq

end ImageSelect.Logging
