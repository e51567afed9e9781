import ImageSelect.Text.Integer
import ImageSelect.Text.Quoted
import ImageSelect.Unicode.Compatibility
import ImageSelect.Url.Address

/-!
# URLs

`Url.parse` checks the characters and the escapes of a whole URL, cuts off
the scheme, the authority, the fragment and the query, checks the authority
and reads its port.  A URL without a scheme is refused last.

The parts come from the text without change, except that the scheme goes to
lower case.
-/

namespace ImageSelect

/-- A URL in its parts. -/
structure Url where
  scheme : List Char
  authority : List Char
  path : List Char
  query : List Char
  fragment : List Char
  port : Option Nat
  deriving Repr, DecidableEq

namespace Url

open ImageSelect.Text

/-- What may be wrong with the authority of a URL. -/
inductive AuthorityFault where
  | brackets
  | laterVersion
  | bracketedIPv4
  | noAddress (host : List Char)
  | compatibility (authority : List Char)
  | portDigits (port : List Char)
  | portRange
  | portLength (digits : Nat)
  deriving Repr, DecidableEq

/-- What may be wrong with a URL. -/
inductive Fault where
  | illegalCharacter
  | badEscape
  | authority (why : AuthorityFault)
  | noScheme
  deriving Repr, DecidableEq

/-! ## Characters and escapes -/

/-- The ASCII characters that a URL may be written with. -/
def isAsciiUrlChar (c : Char) : Bool :=
  c.isAlphanum || "-._~:/?#[]@!$&'()*+,;=%".toList.contains c

/-- The characters that a URL may be written with: those, and anything from
U+00A0 up that is not blank. -/
def isUrlChar (c : Char) : Bool :=
  (isAsciiUrlChar c || 0xA0 ≤ c.toNat) && !Unicode.isSpace c

/-- Whether every percent sign is followed by two hexadecimal digits. -/
def escapesFit : List Char → Bool
  | [] => true
  | '%' :: rest =>
    match rest with
    | a :: b :: _ => isHexDigit a && isHexDigit b && escapesFit rest
    | _ => false
  | _ :: rest => escapesFit rest

/-! ## Cutting -/

/-- The characters of a scheme. -/
def isSchemeChar (c : Char) : Bool :=
  c.isAlphanum || c = '+' || c = '-' || c = '.'

/-- The scheme of a URL in lower case, and what follows its colon.  The
scheme is empty if the text before the first colon is none. -/
def cutScheme (text : List Char) : List Char × List Char :=
  match cut ':' text with
  | (first :: more, some rest) =>
    if first.isAlpha && (first :: more).all isSchemeChar then
      ((first :: more).map Char.toLower, rest)
    else ([], text)
  | _ => ([], text)

/-- The characters that end an authority. -/
def endsAuthority (c : Char) : Bool :=
  c = '/' || c = '?' || c = '#'

/-- The authority behind a double slash, and what follows it. -/
def cutAuthority : List Char → List Char × List Char
  | '/' :: '/' :: rest =>
    (rest.takeWhile (!endsAuthority ·), rest.dropWhile (!endsAuthority ·))
  | text => ([], text)

/-- The text before a mark and the text behind it, which is empty if the
mark is not there. -/
def cutTail (mark : Char) (text : List Char) : List Char × List Char :=
  let (before, after) := cut mark text
  (before, after.getD [])

/-! ## The authority -/

/-- The host and port part of an authority: what follows the last `@`. -/
def hostAndPort (authority : List Char) : List Char :=
  (cutLast '@' authority).2

/-- Checks an authority that has brackets: nothing may stand before the
brackets, only a port may follow, and they hold an address. -/
def checkBrackets (authority : List Char) : Except AuthorityFault Unit := do
  let (before, inside) := cut '[' (hostAndPort authority)
  let host ←
    match inside with
    | none => pure (cut ':' before).1
    | some inside =>
      let (host, after) := cutTail ']' inside
      if !before.isEmpty then throw .brackets
      else if !after.isEmpty && after.head? ≠ some ':' then throw .brackets
      else pure host
  if host.head? = some 'v' then
    if isLaterVersion host then pure () else throw .laterVersion
  else if isIPv4 host then throw .bracketedIPv4
  else if isIPv6 host then pure ()
  else throw (.noAddress host)

/-- Checks that brackets come in pairs around an address. -/
def checkHost (authority : List Char) : Except AuthorityFault Unit :=
  match authority.contains '[', authority.contains ']' with
  | false, false => pure ()
  | true, true => checkBrackets authority
  | _, _ => throw .brackets

/-- Refuses characters that stand for a delimiter under compatibility
decomposition. -/
def checkCompatibility (authority : List Char) : Except AuthorityFault Unit :=
  if authority.any Unicode.hidesDelimiter then throw (.compatibility authority) else pure ()

/-- The text of the port in an authority; empty if there is none. -/
def portText (authority : List Char) : List Char :=
  match cut '[' (hostAndPort authority) with
  | (_, some inside) => (cutTail ':' (cutTail ']' inside).2).2
  | (host, none) => (cutTail ':' host).2

/-- Reads the port of an authority. -/
def readPort (authority : List Char) : Except AuthorityFault (Option Nat) :=
  let digits := portText authority
  if digits.isEmpty then pure none
  else if !digits.all Char.isDigit then throw (.portDigits digits)
  else if digitLimit < digits.length then throw (.portLength digits.length)
  else
    let port := ofDigits (digits.map fun c => c.toNat - 0x30)
    if port ≤ 65535 then pure (some port) else throw .portRange

/-! ## Parsing and writing -/

/-- Cuts a URL into its parts and checks the authority. -/
def cutParts (text : List Char) : Except AuthorityFault Url := do
  let (scheme, rest) := cutScheme text
  let (authority, rest) := cutAuthority rest
  checkHost authority
  let (rest, fragment) := cutTail '#' rest
  let (path, query) := cutTail '?' rest
  checkCompatibility authority
  let port ← readPort authority
  return { scheme, authority, path, query, fragment, port }

/-- Reads a URL. -/
def parse (text : List Char) : Except Fault Url := do
  if !text.all isUrlChar then throw .illegalCharacter
  if !escapesFit text then throw .badEscape
  let url ← (cutParts text).mapError .authority
  if url.scheme.isEmpty then throw .noScheme
  return url

/-- A URL with a scheme, an authority and a path, and nothing else. -/
def write (scheme authority path : List Char) : List Char :=
  scheme ++ ':' :: '/' :: '/' :: authority ++ path

/-! ## Wording -/

/-- What is said of an authority. -/
def AuthorityFault.message : AuthorityFault → String
  | .brackets => "Invalid IPv6 URL"
  | .laterVersion => "IPvFuture address is invalid"
  | .bracketedIPv4 => "An IPv4 address cannot be in brackets"
  | .noAddress host =>
    quoted (String.ofList host) ++ " does not appear to be an IPv4 or IPv6 address"
  | .compatibility authority =>
    "netloc '" ++ String.ofList authority ++
      "' contains invalid characters under NFKC normalization"
  | .portDigits port =>
    "Port could not be cast to integer value as " ++ quoted (String.ofList port)
  | .portRange => "Port out of range 0-65535"
  | .portLength digits => tooLongMessage digits

/-- What is said of a URL. -/
def Fault.message (url : String) : Fault → String
  | .illegalCharacter => "Illegal character in URL: " ++ quoted url
  | .badEscape => "Malformed escape sequence in URL: " ++ quoted url
  | .authority why => "Unparsable URL " ++ quoted url ++ ": " ++ why.message
  | .noScheme => "URL has no scheme: " ++ quoted url

end Url

end ImageSelect
