import ImageSelect.Text.Split

/-!
# Paths

A path is a root and a list of names.  Reading a path drops empty names and
single dots; only `absolute` resolves double dots.  A path that starts with
exactly two slashes keeps them as a root of its own.

A relative path is read in a directory.  Where none is named it is the current
one, which nothing here changes: it is a parameter of all that reads paths.
-/

namespace ImageSelect

/-- The directory in which relative paths are read. -/
class CurrentDirectory where
  path : String

/-- The root of all files as the current directory. -/
@[reducible]
def CurrentDirectory.root : CurrentDirectory := ⟨"/"⟩

/-- Where a path starts. -/
inductive PathRoot where
  | relative
  | slash
  | doubleSlash
  deriving Repr, DecidableEq

/-- A path in its names. -/
structure Path where
  root : PathRoot
  names : List (List Char)
  deriving Repr, DecidableEq

namespace Path

/-- The root that a text starts with. -/
def rootOf : List Char → PathRoot
  | '/' :: '/' :: '/' :: _ => .slash
  | '/' :: '/' :: _ => .doubleSlash
  | '/' :: _ => .slash
  | _ => .relative

/-- Whether a piece between slashes is a name: neither empty nor a single
dot. -/
def isName (piece : List Char) : Bool :=
  piece ≠ [] && piece ≠ ['.']

/-- Reads a path. -/
def ofChars (text : List Char) : Path :=
  ⟨rootOf text, (Text.pieces '/' text).filter isName⟩

/-- The text of a root. -/
def rootChars : PathRoot → List Char
  | .relative => []
  | .slash => ['/']
  | .doubleSlash => ['/', '/']

/-- The text of a path; a single dot for the empty one. -/
def toChars (path : Path) : List Char :=
  match path.root, path.names with
  | .relative, [] => ['.']
  | root, names => rootChars root ++ Text.join '/' names

/-- Adds a name to names below a root, latest first; a double dot takes the
latest one back. -/
def push (names : List (List Char)) (name : List Char) : List (List Char) :=
  if name = ['.', '.'] then names.drop 1 else name :: names

/-- The absolute form of a path, with its double dots resolved. -/
def absolute (path : Path) : Path :=
  let root :=
    match path.root with
    | .relative => .slash
    | root => root
  ⟨root, (path.names.foldl push []).reverse⟩

/-- A path as it is read in a directory: a relative one starts there. -/
def within (directory path : Path) : Path :=
  match path.root with
  | .relative => ⟨directory.root, directory.names ++ path.names⟩
  | _ => path

/-- The absolute form of the path that a text stands for in a directory. -/
def absoluteIn (directory text : List Char) : Path :=
  ((ofChars directory).within (ofChars text)).absolute

/-- The absolute form of a path that is read in the current directory. -/
def resolved [CurrentDirectory] (path : Path) : Path :=
  ((ofChars CurrentDirectory.path.toList).within path).absolute

/-- The last name of a path; empty if it has none. -/
def fileName (path : Path) : List Char :=
  path.names.getLast?.getD []

/-- The path without its last name. -/
def parent (path : Path) : Path :=
  { path with names := path.names.dropLast }

/-- The extensions of a name, each with its dot.  Leading dots start no
extension, and a name that ends in a dot has none. -/
def suffixes (name : List Char) : List (List Char) :=
  if name.getLast? = some '.' then []
  else
    ((Text.pieces '.' (name.dropWhile (· = '.'))).drop 1).map ('.' :: ·)

end Path

end ImageSelect
