import ImageSelect.Metadata.Row
import ImageSelect.Session
import ImageSelect.Value

/-!
# Extractors

An extractor declares keys and gives a row for a value.  One reports URL,
series and frame of a location, one its file and path name, one always the
same row, whatever the value, one the row that a given function has for the
value, and one joins the rows of its members.

An extractor reads the values that it is meant for.  What a location does not
have is reported as the empty text, and of a value that is no location
nothing is reported.
Strings go through the cache of the session, unless an extractor has a cache
of its own, which nothing else sees.

A row breaks off at a series or a frame that cannot be written.  What has gone
into the cache before stays there.
-/

namespace ImageSelect

/-- Whose cache an extractor uses. -/
inductive Sharing where
  | shared
  | own
  deriving Repr, DecidableEq

/-- An extractor. -/
inductive Extractor where
  | planeNumbers (sharing : Sharing)
  | names (sharing : Sharing)
  | fixed (keys : List String) (row : Row)
  | custom (keys : List String) (row? : Value → Option Row)
  | combined (members : List Extractor)

namespace Extractor

/-- The key of the URL. -/
def urlKey : String := "FileLocation"

/-- The key of the series. -/
def seriesKey : String := "Series"

/-- The key of the frame. -/
def frameKey : String := "Frame"

/-- The key of the file name. -/
def fileNameKey : String := "FileName"

/-- The key of the path name. -/
def pathNameKey : String := "PathName"

mutual

/-- The keys that an extractor declares, in the order of its columns. -/
def keys : Extractor → List String
  | .planeNumbers _ => [urlKey, seriesKey, frameKey]
  | .names _ => [fileNameKey, pathNameKey]
  | .fixed keys _ => keys
  | .custom keys _ => keys
  | .combined members => memberKeys members

/-- The keys that extractors declare, one after the other. -/
def memberKeys : List Extractor → List String
  | [] => []
  | e :: es => keys e ++ memberKeys es

end

mutual

/-- Whether an extractor has a row for a value. -/
def reads : Extractor → Value → Bool
  | .planeNumbers _, v => v.isA .plane
  | .names _, v => v.isA .location
  | .fixed _ _, _ => true
  | .custom _ row?, v => (row? v).isSome
  | .combined members, v => membersRead members v

/-- Whether all of some extractors have a row for a value. -/
def membersRead : List Extractor → Value → Bool
  | [], _ => true
  | e :: es, v => reads e v && membersRead es v

end

/-- A key that two members of a combination declare. -/
structure DuplicateKey where
  key : String
  deriving Repr, DecidableEq

/-- What is said of such a key. -/
def DuplicateKey.message (e : DuplicateKey) : String :=
  "Metadata key '" ++ e.key ++ "' is produced by more than one extractor"

/-- The first key that has come before. -/
def firstRepeated (seen : List String) : List String → Option String
  | [] => none
  | key :: keys => if seen.contains key then some key else firstRepeated (seen ++ [key]) keys

/-- Joins extractors; their keys must be distinct. -/
def combine (members : List Extractor) : Except DuplicateKey Extractor :=
  match firstRepeated [] (memberKeys members) with
  | some key => .error ⟨key⟩
  | none => .ok (.combined members)

/-- Interns a string in the session's cache if it is shared. -/
def Sharing.intern (sharing : Sharing) (text : String) : Run String :=
  match sharing with
  | .shared => Run.intern text
  | .own => pure text

/-- The text of a number.  Zero, the most frequent one, is not interned. -/
def numberText (sharing : Sharing) : Option Nat → Writing String
  | none => return ""
  | some 0 => return "0"
  | some n => do
    let text ← liftExcept (Text.writeNumber n)
    Sharing.intern sharing text

/-- The logger of file and path names. -/
def nameLogger : String := "imageset.metadata.extractors.file_path_extractor"

/-- The row of URL, series and frame. -/
def extractNumbers (sharing : Sharing) (l : Location) : Writing Row := do
  let url ← Sharing.intern sharing l.url
  let series ← numberText sharing l.series?
  let frame ← numberText sharing l.frame?
  return ⟨[(urlKey, url), (seriesKey, series), (frameKey, frame)]⟩

section
variable [CurrentDirectory]

/-- The row of file and path name. -/
def extractNames (sharing : Sharing) (l : Location) : Run Row := do
  let file ← Run.fileName? l.url
  let path ← Run.pathName? l.url
  if file.isNone || path.isNone then
    Run.log .debug nameLogger ("Incomplete file/path metadata for " ++ l.url)
  let file ← Sharing.intern sharing (file.getD "")
  let path ← Sharing.intern sharing (path.getD "")
  return ⟨[(fileNameKey, file), (pathNameKey, path)]⟩

mutual

/-- The row of a value. -/
def extract : Extractor → Value → Writing Row
  | .planeNumbers sharing, v => (v.location?.map (extractNumbers sharing)).getD (return {})
  | .names sharing, v =>
    (v.location?.map fun l => (extractNames sharing l : Writing Row)).getD (return {})
  | .fixed _ row, _ => return row
  | .custom _ row?, v => return (row? v).getD {}
  | .combined members, v => extractMembers members {} v

/-- A row with the rows of members merged into it. -/
def extractMembers : List Extractor → Row → Value → Writing Row
  | [], row, _ => return row
  | e :: es, row, v => do
    let more ← extract e v
    extractMembers es (row.merge more) v

end

end

/-- The extractor of all that is known of a plane. -/
def plane (sharing : Sharing) : Extractor :=
  .combined [.planeNumbers sharing, .names sharing]

/-- The extractor for candidates of a type. -/
def forType (t : ValueType) (sharing : Sharing) : Extractor :=
  if t.isSubtype .plane then plane sharing else .names sharing

end Extractor

end ImageSelect
