import ImageSelect.Location.Name
import ImageSelect.Selection.Planes
import ImageSelect.Text.Utf8
import ImageSelect.Unicode.Space
import ImageSelect.Value

/-!
# Inputs of the command line

An input is a URL if it contains `://`, and a path otherwise.  A list of
inputs has one on each line; blank lines and lines that start with `#` do not
count, nor do blanks at the ends of a line.
-/

namespace ImageSelect.CommandLine

/-- Whether a text contains a mark. -/
def contains (mark : List Char) : List Char → Bool
  | [] => mark.isEmpty
  | c :: cs => mark.isPrefixOf (c :: cs) || contains mark cs

/-- The image file that an input names. -/
def imageFileOf [CurrentDirectory] (input : String) : ImageFile :=
  if contains "://".toList input.toList then { url := input } else ImageFile.ofPath input

/-- The lines of a text.  A line ends at a line feed, at a carriage return,
or at the two together. -/
def lines : List Char → List (List Char)
  | [] => [[]]
  | '\r' :: '\n' :: cs => [] :: lines cs
  | '\n' :: cs => [] :: lines cs
  | '\r' :: cs => [] :: lines cs
  | c :: cs =>
    match lines cs with
    | [] => [[c]]
    | line :: more => (c :: line) :: more

/-- Whether a line, without blanks at its ends, names an input. -/
def isInput (line : List Char) : Bool :=
  match line with
  | [] | '#' :: _ => false
  | _ => true

/-- The inputs that a list names. -/
def listed (text : List Char) : List String :=
  (((lines text).map Unicode.strip).filter isInput).map String.ofList

/-- The inputs that the bytes of a list name. -/
def readList (bytes : List UInt8) : Except Text.Utf8.Stop (List String) :=
  (Text.Utf8.decodeFile bytes).map listed

/-- The candidates that an input stands for: its file, or the planes of it. -/
def candidatesOf [CurrentDirectory] (filesOnly : Bool) (series frames : Nat) (input : String) :
    List Value :=
  let file := imageFileOf input
  if filesOnly then [.file file] else (allPlanes file series frames).map .plane

end ImageSelect.CommandLine
