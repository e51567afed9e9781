import ImageSelect.Decimal.Text
import ImageSelect.Location
import ImageSelect.Text.Quoted
import ImageSelect.ValueType

/-!
# Values

A candidate is any value; a filter is meant for planes, files or texts, and
passes over the rest.  Every value has a type, a shown form for messages unless
a number in it is too long to be written, and an equality in which a number is
equal to another spelling of itself.
-/

namespace ImageSelect

/-- A value. -/
inductive Value where
  | plane (p : Plane)
  | file (f : ImageFile)
  | text (s : String)
  | null
  | boolean (b : Bool)
  | integer (n : Int)
  | decimal (x : Float)
  | list (items : List Value)
  | record (fields : List (String × Value))

namespace Value

instance : Inhabited Value := ⟨.null⟩

/-- The type of a value. -/
def type : Value → ValueType
  | .plane _ => .plane
  | .file _ => .file
  | .text _ => .text
  | .null => .null
  | .boolean _ => .boolean
  | .integer _ => .integer
  | .decimal _ => .decimal
  | .list _ => .list
  | .record _ => .record

/-- Whether a value is one of a type. -/
def isA (v : Value) (t : ValueType) : Bool :=
  v.type.isSubtype t

/-- The location that a value is. -/
def location? : Value → Option Location
  | .plane p => some (.plane p)
  | .file f => some (.file f)
  | _ => none

/-- The value of a location. -/
def ofLocation : Location → Value
  | .plane p => .plane p
  | .file f => .file f

/-- The shown form of a file. -/
def showFile (f : ImageFile) : String :=
  "ImageFile(" ++ Text.quoted f.url ++ ")"

mutual

/-- The form of a value in messages. -/
def shown : Value → Except Text.WriteError String
  | .plane p => do
    let series ← Text.writeNumber p.series
    let frame ← Text.writeNumber p.frame
    return "ImagePlane(image_file=" ++ showFile p.file ++ ", series=" ++ series ++
      ", index=" ++ frame ++ ")"
  | .file f => return showFile f
  | .text s => return Text.quoted s
  | .null => return "None"
  | .boolean true => return "True"
  | .boolean false => return "False"
  | .integer n => Text.writeInteger n
  | .decimal x => return Decimal.text x
  | .list items => do
    let forms ← shownItems items
    return "[" ++ ", ".intercalate forms ++ "]"
  | .record fields => do
    let forms ← shownFields fields
    return "\x7b" ++ ", ".intercalate forms ++ "\x7d"

/-- The forms of the items of a list. -/
def shownItems : List Value → Except Text.WriteError (List String)
  | [] => return []
  | v :: vs => do
    let form ← shown v
    let forms ← shownItems vs
    return form :: forms

/-- The forms of the fields of a record. -/
def shownFields : List (String × Value) → Except Text.WriteError (List String)
  | [] => return []
  | (key, v) :: fields => do
    let form ← shown v
    let forms ← shownFields fields
    return (Text.quoted key ++ ": " ++ form) :: forms

end

/-- A value all of whose numbers can be written. -/
def Showable (v : Value) : Prop :=
  ∃ form, v.shown = .ok form

/-- A short description for people. -/
def describe : Value → Except Text.WriteError String
  | .plane p => (Location.plane p).describe
  | .file f => (Location.file f).describe
  | .text s => return s
  | v => v.shown

/-- A finite number as a fraction: numerator and denominator. -/
def fraction? : Value → Option (Int × Nat)
  | .boolean b => some (if b then 1 else 0, 1)
  | .integer n => some (n, 1)
  | .decimal x =>
    let bits := x.toBits.toNat
    if bits % Nat.pow 2 63 / Nat.pow 2 52 = 2047 then none
    else
      let b := Decimal.binaryOfBits (bits % Nat.pow 2 63)
      let (n, d) := Decimal.scaled b.significand b.exponent 0
      some (if Nat.pow 2 63 ≤ bits then -(n : Int) else n, d)
  | _ => none

mutual

/-- Whether two values are equal.  Numbers are compared by what they stand
for. -/
def same : Value → Value → Bool
  | .plane p, .plane q => p == q
  | .file f, .file g => f == g
  | .text s, .text t => s == t
  | .null, .null => true
  | .list xs, .list ys => sameItems xs ys
  | .record xs, .record ys => xs.length == ys.length && sameFields xs ys
  | .decimal x, .decimal y => x == y
  | v, w =>
    match fraction? v, fraction? w with
    | some (a, b), some (c, d) => a * d == c * b
    | _, _ => false

/-- Whether two lists have equal items. -/
def sameItems : List Value → List Value → Bool
  | [], [] => true
  | x :: xs, y :: ys => same x y && sameItems xs ys
  | _, _ => false

/-- Whether every field of the first record is in the second one. -/
def sameFields : List (String × Value) → List (String × Value) → Bool
  | [], _ => true
  | (key, v) :: fields, others =>
    (match others.lookup key with
     | some w => same v w
     | none => false) && sameFields fields others

end

end Value

end ImageSelect
