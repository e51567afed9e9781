import ImageSelect.Xml.Markup

/-!
# Tokens outside of elements

What stands before the root, in the document type declaration, and behind the
root is cut into tokens.  A token that can go on needs the character behind
it, unless the document ends there.
-/

namespace ImageSelect.Xml

/-- A token outside of elements. -/
inductive Token where
  | blank
  | comment
  | instruction
  | declaration (body : List Char)
  | declarationStart (keyword : List Char)
  | sectionStart
  | sectionEnd
  | element
  | literal (quote : Char) (text : List Char)
  | percent
  | parameterReference
  | name (text : List Char)
  | qualifiedName (text : List Char)
  | nameToken (text : List Char)
  | repeatedName (text : List Char)
  | keyword (text : List Char)
  | comma
  | bar
  | openBracket
  | closeBracket
  | openParen
  | closeParen (repeated : Option Char)
  | close
  deriving Repr, DecidableEq

namespace Token

/-- Gives a token that ends at the character `rest` starts with, if that
character is one of those that `mayFollow`. -/
def delimited (t : Token) (mayFollow : List Char) (ending : Ending) (rest : List Char) :
    Except Stop (Token × List Char) :=
  match rest with
  | [] => if ending = .complete || ending = .odd then .ok (t, []) else .error .ended
  | c :: _ => if mayFollow.contains c then .ok (t, rest) else .error (.unexpected rest)

/-- Reads a literal up to its quote. -/
def readLiteral (quote : Char) (ending : Ending) (text : List Char) :
    List Char → Except Stop (Token × List Char)
  | [] => .error .ended
  | c :: rest =>
    if c = quote then
      delimited (.literal quote text.reverse) [' ', '\t', '\n', '\r', '>', '%', '['] ending rest
    else readLiteral quote ending (c :: text) rest

/-- Reads what follows `<!`. -/
def readBang : List Char → Except Stop (Token × List Char)
  | [] => .error .ended
  | '-' :: rest => (readCommentStart rest).map fun rest => (.comment, rest)
  | '[' :: rest => .ok (.sectionStart, rest)
  | c :: more =>
    if c.isAlpha || c = '_' then
      let (word, rest) := (c :: more).span fun c => c.isAlpha || c = '_'
      match rest with
      | [] => .error .ended
      | '%' :: [] => .error .ended
      | '%' :: d :: _ =>
        if isBlank d || d = '%' then .error (.unexpected rest)
        else .ok (.declarationStart word, rest)
      | d :: _ =>
        if isBlank d then .ok (.declarationStart word, rest) else .error (.unexpected rest)
    else .error (.unexpected (c :: more))

/-- Reads what follows a percent sign. -/
def readPercent (s : List Char) : Except Stop (Token × List Char) :=
  match s with
  | [] => .error .ended
  | c :: _ =>
    if isNameStart c then
      match s.dropWhile isNameChar with
      | [] => .error .ended
      | ';' :: rest => .ok (.parameterReference, rest)
      | rest => .error (.unexpected rest)
    else if isBlank c || c = '%' then .ok (.percent, s)
    else .error (.unexpected s)

/-- Reads what follows a number sign. -/
def readKeyword (ending : Ending) (s : List Char) : Except Stop (Token × List Char) :=
  match s with
  | [] => .error .ended
  | c :: _ =>
    if isNameStart c then
      let (text, rest) := s.span isNameChar
      delimited (.keyword text) [' ', '\t', '\n', '\r', ')', '>', '%', '|'] ending rest
    else .error (.unexpected s)

/-- The kind of a name: qualified if a single colon has a name on both
sides, and a mere name token if it starts otherwise or has other colons. -/
def ofName (text : List Char) : Token :=
  match text with
  | [] => .nameToken []
  | c :: _ =>
    if isNameStart c then
      match text.dropWhile (· != ':') with
      | [] => .name text
      | _ :: [] => .nameToken text
      | _ :: second => if second.contains ':' then .nameToken text else .qualifiedName text
    else .nameToken text

/-- Reads a name. -/
def readName (ending : Ending) (s : List Char) : Except Stop (Token × List Char) :=
  let (text, rest) := s.span fun c => isNameChar c || c = ':'
  match ofName text, rest with
  | .nameToken text, [] =>
    if (text.dropWhile (· != ':')).length = 1 && text.head?.any isNameStart then .error .ended
    else delimited (.nameToken text) [] ending []
  | .nameToken text, rest =>
    delimited (.nameToken text) ['>', ')', ',', '|', '[', '%', ' ', '\t', '\n', '\r'] ending rest
  | t, c :: more =>
    if c = '?' || c = '*' || c = '+' then .ok (.repeatedName text, more)
    else delimited t ['>', ')', ',', '|', '[', '%', ' ', '\t', '\n', '\r'] ending rest
  | t, [] => delimited t [] ending []

/-- Reads what follows a closing parenthesis. -/
def readCloseParen (ending : Ending) : List Char → Except Stop (Token × List Char)
  | '*' :: rest => .ok (.closeParen (some '*'), rest)
  | '?' :: rest => .ok (.closeParen (some '?'), rest)
  | '+' :: rest => .ok (.closeParen (some '+'), rest)
  | rest => delimited (.closeParen none) [' ', '\t', '\n', '\r', '>', ',', '|', ')'] ending rest

/-- Reads the token that starts with the character `first`. -/
def read (ending : Ending) (first : Char) (rest : List Char) :
    Except Stop (Token × List Char) :=
  match first with
  | '"' | '\'' => readLiteral first ending [] rest
  | '<' =>
    match rest with
    | [] => .error .ended
    | '!' :: rest => readBang rest
    | '?' :: rest =>
      (readInstruction rest).map fun
        | (.declaration body, rest) => (.declaration body, rest)
        | (.other, rest) => (.instruction, rest)
    | c :: _ =>
      if isNameStart c || 0x80 ≤ c.toNat then .ok (.element, first :: rest)
      else .error (.unexpected rest)
  | '%' => readPercent rest
  | '#' => readKeyword ending rest
  | ',' => .ok (.comma, rest)
  | '|' => .ok (.bar, rest)
  | '[' => .ok (.openBracket, rest)
  | ']' =>
    match rest with
    | ']' :: [] => .error .ended
    | ']' :: '>' :: rest => .ok (.sectionEnd, rest)
    | rest => .ok (.closeBracket, rest)
  | '(' => .ok (.openParen, rest)
  | ')' => readCloseParen ending rest
  | '>' => .ok (.close, rest)
  | c =>
    if isBlank c then .ok (.blank, rest.dropWhile isBlank)
    else if isNameChar c || c = ':' then readName ending (c :: rest)
    else .error (.unexpected (c :: rest))

end Token

end ImageSelect.Xml
