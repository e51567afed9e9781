import ImageSelect.Location
import ImageSelect.Path
import ImageSelect.Url.Basic

/-!
# Names of a location

The file name and the path name of a location are derived from its URL.  A
`file` URL names a local path: its last component, and the folder of its
absolute form.  The path of any other URL is decoded and cut at its last
slash; the path name is a URL again.

A URL that cannot be parsed has neither name, nor has a `file` URL of
another machine.  A URL that is no `file` URL and has no authority has no
path name.
-/

namespace ImageSelect

/-- Why a name cannot be derived from a URL. -/
inductive NameError where
  | malformed (why : Url.Fault)
  | remoteAuthority (authority : List Char)
  | noAuthority (scheme : List Char)
  deriving Repr, DecidableEq

/-- What is said of a URL without a name. -/
def NameError.message (url : String) : NameError → String
  | .malformed why => why.message url
  | .remoteAuthority authority =>
    "File URL has a remote authority: " ++ Text.quoted (String.ofList authority)
  | .noAuthority scheme =>
    "No network location to rebuild a '" ++ String.ofList scheme ++ "' URL from"

variable [CurrentDirectory]

namespace Location

/-- The scheme of local files. -/
def fileScheme : List Char := ['f', 'i', 'l', 'e']

/-- The authorities of this machine. -/
def isLocal (authority : List Char) : Bool :=
  authority = [] || authority = "localhost".toList

/-- The local path of a `file` URL. -/
def localPath (url : Url) : Except NameError Path :=
  if isLocal url.authority then .ok (Path.ofChars (Url.percentDecode url.path))
  else .error (.remoteAuthority url.authority)

/-- The text behind the last slash. -/
def lastComponent (path : List Char) : List Char :=
  (Text.cutLast '/' path).2

/-- The text before the last slash; empty if there is none. -/
def leadingComponents (path : List Char) : List Char :=
  (Text.cutLast '/' path).1.getD []

/-- The file name of a parsed URL. -/
def fileNameOf (url : Url) : Except NameError (List Char) :=
  if url.scheme = fileScheme then (localPath url).map Path.fileName
  else .ok (lastComponent (Url.percentDecode url.path))

/-- The path name of a parsed URL. -/
def pathNameOf (url : Url) : Except NameError (List Char) :=
  if url.scheme = fileScheme then
    (localPath url).map fun path => path.resolved.parent.toChars
  else if url.authority = [] then .error (.noAuthority url.scheme)
  else
    .ok (Url.write url.scheme url.authority
      (Url.percentEncode (leadingComponents (Url.percentDecode url.path))))

/-- Parses the text of a URL. -/
def parseUrl (url : String) : Except NameError Url :=
  (Url.parse url.toList).mapError .malformed

/-- The file name of a URL. -/
def fileName (url : String) : Except NameError String := do
  let name ← fileNameOf (← parseUrl url)
  return String.ofList name

/-- The path name of a URL. -/
def pathName (url : String) : Except NameError String := do
  let name ← pathNameOf (← parseUrl url)
  return String.ofList name

/-- The URL of a local path that is read in a directory. -/
def urlOfPathIn (directory path : String) : String :=
  String.ofList (Url.write fileScheme []
    (Url.percentEncode (Path.absoluteIn directory.toList path.toList).toChars))

end Location

/-- The image file at a local path that is read in a directory. -/
def ImageFile.ofPathIn (directory path : String) : ImageFile :=
  { url := Location.urlOfPathIn directory path }

/-- The image file at a local path. -/
def ImageFile.ofPath (path : String) : ImageFile :=
  .ofPathIn CurrentDirectory.path path

end ImageSelect
