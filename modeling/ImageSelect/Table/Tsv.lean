import ImageSelect.Metadata.Row

/-!
# Tab-separated tables

A table is written as records of fields.  A tab stands between fields and a
line feed behind each record.  A field that holds one of these, or a quote,
is written between quotes, and a quote in it twice; so is the empty field of
a record that has no other.
-/

namespace ImageSelect.Tsv

/-- Whether a character has to be quoted. -/
def isSpecial (c : Char) : Bool :=
  c = '\t' || c = '\n' || c = '"'

/-- A text with each quote written twice. -/
def doubled : List Char → List Char
  | [] => []
  | c :: cs => if c = '"' then '"' :: '"' :: doubled cs else c :: doubled cs

/-- A text between quotes. -/
def quote (text : List Char) : List Char :=
  '"' :: doubled text ++ ['"']

/-- A field. -/
def field (text : List Char) : List Char :=
  if text.any isSpecial then quote text else text

/-- Fields with tabs between them. -/
def fields : List (List Char) → List Char
  | [] => []
  | [text] => field text
  | text :: texts => field text ++ '\t' :: fields texts

/-- A record. -/
def record (texts : List (List Char)) : List Char :=
  (if texts = [[]] then quote [] else fields texts) ++ ['\n']

/-- The values of a row under keys. -/
def values (keys : List String) (row : Row) : List String :=
  keys.map fun key => (row.get? key).getD ""

/-- A table: a record of its keys, then one for each row. -/
def table (keys : List String) (rows : List Row) : String :=
  String.ofList ((keys :: rows.map (values keys)).flatMap
    fun texts => record (texts.map String.toList))

end ImageSelect.Tsv
