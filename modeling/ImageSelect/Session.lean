import ImageSelect.Location.Name
import ImageSelect.Logging.Record
import ImageSelect.Memo
import ImageSelect.StringCache

/-!
# Sessions

What accumulates while candidates are looked at: the names that were derived
from URLs, the strings that were interned, the log records, and the probes
that were run.

A name is derived from a URL once.  A URL without a name is asked again each
time, and each time leaves a record.
-/

namespace ImageSelect

/-- The names derived from one URL. -/
structure NameCells where
  file : Memo String := .empty
  path : Memo String := .empty
  deriving Repr, DecidableEq

/-- What accumulates while candidates are looked at. -/
structure Session where
  names : Std.HashMap String NameCells := {}
  cache : StringCache := {}
  records : Array Logging.Record := #[]
  probes : Array String := #[]

/-- A computation that adds to a session. -/
abbrev Run := StateM Session

/-- A computation that adds to a session and writes numbers, and breaks off at
one that cannot be written. -/
abbrev Writing := ExceptT Text.WriteError Run

namespace Session

/-- The cells of a URL. -/
def cells (s : Session) (url : String) : NameCells :=
  s.names.getD url {}

/-- Sets the cells of a URL. -/
def setCells (s : Session) (url : String) (cells : NameCells) : Session :=
  { s with names := s.names.insert url cells }

/-- Adds a record. -/
def log (s : Session) (record : Logging.Record) : Session :=
  { s with records := s.records.push record }

end Session

namespace Run

/-- Adds a record. -/
def log (level : Logging.Level) (logger message : String) : Run Unit :=
  modify (·.log ⟨level, logger, message⟩)

/-- Notes that a probe ran. -/
def visit (name : String) : Run Unit :=
  modify fun s => { s with probes := s.probes.push name }

/-- Interns a string in the session's cache. -/
def intern (text : String) : Run String :=
  modifyGet fun s =>
    let (interned, cache) := s.cache.intern text
    (interned.text, { s with cache })

/-- Puts a cache of strings in the place of the session's, and gives back the
one that was there. -/
def exchange (cache : StringCache) : Run StringCache :=
  modifyGet fun s => (s.cache, { s with cache })

/-- The logger of names. -/
def nameLogger : String := "imageset.core.image_file"

/-- The record of a URL without a file name. -/
def fileNameRecord (url : String) (e : NameError) : Logging.Record :=
  ⟨.info, nameLogger,
    "Failed to extract file name from badly formed URL: " ++ url ++ " (" ++ e.message url ++ ")"⟩

/-- The record of a URL without a path name. -/
def pathNameRecord (url : String) : NameError → Logging.Record
  | .noAuthority scheme =>
    ⟨.warning, nameLogger,
      "Failed to reconstitute path from URL, \"" ++ url ++ "\": " ++
        (NameError.noAuthority scheme).message url⟩
  | e =>
    ⟨.info, nameLogger,
      "Failed to extract metadata from badly formed URL: " ++ url ++ " (" ++ e.message url ++ ")"⟩

/-- The file name of a URL. -/
def fileName? (url : String) : Run (Option String) :=
  modifyGet fun s =>
    let cells := s.cells url
    let reply := cells.file.get fun _ => Location.fileName url
    match reply.result with
    | .ok name => (some name, s.setCells url { cells with file := reply.cell })
    | .error e => (none, s.log (fileNameRecord url e))

/-- The path name of a URL. -/
def pathName? [CurrentDirectory] (url : String) : Run (Option String) :=
  modifyGet fun s =>
    let cells := s.cells url
    let reply := cells.path.get fun _ => Location.pathName url
    match reply.result with
    | .ok name => (some name, s.setCells url { cells with path := reply.cell })
    | .error e => (none, s.log (pathNameRecord url e))

end Run

end ImageSelect
