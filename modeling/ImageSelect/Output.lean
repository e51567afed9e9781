import ImageSelect.Path
import ImageSelect.Text.Quoted
import ImageSelect.Text.Utf8

/-!
# Output

What a run writes: the two standard streams, and files.  The text for a file
is added to what the file held before, or takes its place.  Two paths with the
same absolute form are paths of one file.
-/

namespace ImageSelect

/-- Why a file cannot be opened. -/
inductive OpenError where
  | missing
  | isDirectory
  | denied
  deriving Repr, DecidableEq

/-- The wording of an error. -/
def OpenError.text : OpenError → String
  | .missing => "[Errno 2] No such file or directory"
  | .isDirectory => "[Errno 21] Is a directory"
  | .denied => "[Errno 13] Permission denied"

/-- A file that cannot be opened. -/
structure FileFailure where
  path : String
  why : OpenError
  deriving Repr, DecidableEq

/-- What is said of a file that cannot be opened. -/
def FileFailure.message (f : FileFailure) : String :=
  f.why.text ++ ": " ++ Text.quoted f.path

/-- Whether two paths are paths of one file. -/
def sameFile [CurrentDirectory] (path other : String) : Bool :=
  (Path.ofChars path.toList).resolved = (Path.ofChars other.toList).resolved

/-- The text that a file gets. -/
structure OutputFile where
  path : String
  text : String := ""
  replaces : Bool := false
  deriving Repr, DecidableEq

/-- The bytes of a file that held some bytes before. -/
def OutputFile.bytes (file : OutputFile) (before : List UInt8) : List UInt8 :=
  (if file.replaces then [] else before) ++ Text.Utf8.encode file.text.toList

/-- What a run writes. -/
structure Output where
  stdout : String := ""
  stderr : String := ""
  files : List OutputFile := []
  deriving Repr, DecidableEq

namespace Output

/-- Adds to the standard output. -/
def print (out : Output) (text : String) : Output :=
  { out with stdout := out.stdout ++ text }

/-- Adds to the standard error stream. -/
def report (out : Output) (text : String) : Output :=
  { out with stderr := out.stderr ++ text }

variable [CurrentDirectory]

/-- Changes one of some files; a file that is not among them is new. -/
def changeFile (path : String) (change : OutputFile → OutputFile) :
    List OutputFile → List OutputFile
  | [] => [change { path }]
  | file :: files =>
    if sameFile file.path path then change file :: files
    else file :: changeFile path change files

/-- Adds to a file. -/
def append (out : Output) (path text : String) : Output :=
  { out with files := changeFile path (fun f => { f with text := f.text ++ text }) out.files }

/-- Gives a file a new text. -/
def replace (out : Output) (path text : String) : Output :=
  { out with
    files := changeFile path (fun f => { f with text, replaces := true }) out.files }

/-- What a file gets, if it is written to. -/
def file? (out : Output) (path : String) : Option OutputFile :=
  out.files.find? fun file => sameFile file.path path

/-- The text that a file gets, if it is written to. -/
def textOf? (out : Output) (path : String) : Option String :=
  (out.file? path).map (·.text)

/-- The bytes of a file that held some bytes before the output. -/
def bytesOf (out : Output) (path : String) (before : List UInt8) : List UInt8 :=
  match out.file? path with
  | some file => file.bytes before
  | none => before

end Output

end ImageSelect
