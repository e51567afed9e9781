import ImageSelect.Session
import ImageSelect.Value
import ImageSelect.Xml.Document

/-!
# Metadata documents

An image file can carry a metadata document: an element whose name, without
its namespace, is `OME`.  Attaching anything else fails and leaves the file
as it is.

`FileAction` lists what can be done with a file, and `FileAction.run` does
it.  The names of a file can be asked for through its planes as well.
-/

namespace ImageSelect

/-- The name of the root of a metadata document. -/
def documentRoot : String := "OME"

/-- The part of a name behind its last closing brace. -/
def localName (name : String) : String :=
  String.ofList (Text.cutLast '\x7d' name.toList).2

/-- Whether an element is the root of a metadata document. -/
def isDocumentRoot (e : Xml.Element) : Bool :=
  localName e.name = documentRoot

/-- What can be offered as a document: an element, or a value that is none. -/
inductive Attachment where
  | element (e : Xml.Element)
  | value (v : Value)

/-- Why something cannot be attached. -/
inductive AttachmentError where
  | unreadable (why : Xml.ReadError)
  | notElement (type : ValueType)
  | wrongRoot (name : String)
  deriving Repr, DecidableEq

/-- What is said of something that cannot be attached. -/
def AttachmentError.message : AttachmentError → String
  | .unreadable why => why.message
  | .notElement type => "Expected an XML element, got " ++ type.name
  | .wrongRoot name => "Root of XML document wasn't " ++ documentRoot ++ ": " ++ name

namespace ImageFile

/-- Attaches a document in place of the one before. -/
def attach (file : ImageFile) : Attachment → Except AttachmentError ImageFile
  | .value v => .error (.notElement v.type)
  | .element e =>
    if isDocumentRoot e then .ok { file with document := some e }
    else .error (.wrongRoot e.name)

/-- Reads a document and attaches it. -/
def attachDocument (file : ImageFile) (input : Xml.Input) : Except AttachmentError ImageFile :=
  match input.read with
  | .error why => .error (.unreadable why)
  | .ok root => file.attach (.element root)

/-- Takes the document off. -/
def detach (file : ImageFile) : ImageFile :=
  { file with document := none }

end ImageFile

/-- What can be done with an image file. -/
inductive FileAction where
  | fileName
  | pathName
  | planeFileName (series frame : Nat)
  | planePathName (series frame : Nat)
  | attach (a : Attachment)
  | attachDocument (input : Xml.Input)
  | detach

/-- What an action gives: a name, if there is one, or nothing. -/
abbrev FileAnswer := Except AttachmentError (Option String)

namespace FileAction

/-- The file after an attempt to attach a document. -/
def settle (file : ImageFile) : Except AttachmentError ImageFile → ImageFile × FileAnswer
  | .ok file => (file, .ok none)
  | .error why => (file, .error why)

variable [CurrentDirectory]

/-- Does something with a file: the file after it, and what it gives. -/
def run (file : ImageFile) : FileAction → Run (ImageFile × FileAnswer)
  | .fileName => do return (file, .ok (← Run.fileName? file.url))
  | .pathName => do return (file, .ok (← Run.pathName? file.url))
  | .planeFileName series frame => do
    return (file, .ok (← Run.fileName? (Location.plane ⟨file, series, frame⟩).url))
  | .planePathName series frame => do
    return (file, .ok (← Run.pathName? (Location.plane ⟨file, series, frame⟩).url))
  | .attach a => return settle file (file.attach a)
  | .attachDocument input => return settle file (file.attachDocument input)
  | .detach => return (file.detach, .ok none)

/-- Does one thing after the other: the file after all of them, and what each
gives. -/
def runAll (file : ImageFile) : List FileAction → Run (ImageFile × List FileAnswer)
  | [] => return (file, [])
  | a :: actions => do
    let (file, answer) ← a.run file
    let (file, answers) ← runAll file actions
    return (file, answer :: answers)

end FileAction

end ImageSelect
