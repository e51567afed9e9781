import ImageSelect.Unicode.Number
import ImageSelect.Unicode.Space

/-!
# Written integers

An integer is read from decimal digits of any script, with single underscores
between digits, an optional sign and blanks around it, and it is written in
plain decimal digits.  More than `digitLimit` digits are neither read nor
written.
-/

namespace ImageSelect.Text

/-- The most digits an integer may be written with. -/
def digitLimit : Nat := 4300

/-! ## Reading -/

/-- The outcome of reading an integer. -/
inductive IntegerReading where
  | value (n : Int)
  | malformed
  | tooLong (digits : Nat)
  deriving Repr, DecidableEq

/-- The digits of a number whose digits may be separated by single
underscores, as values. -/
def digitValues : List Char → Option (List Nat)
  | [] => none
  | [c] => (Unicode.decimalValue? c).map ([·])
  | c :: '_' :: rest => do
    let d ← Unicode.decimalValue? c
    let ds ← digitValues rest
    return d :: ds
  | c :: rest => do
    let d ← Unicode.decimalValue? c
    let ds ← digitValues rest
    return d :: ds

/-- The number that decimal digits stand for. -/
def ofDigits (digits : List Nat) : Nat :=
  digits.foldl (fun n d => n * 10 + d) 0

/-- Reads the digits of a number and gives the number a sign. -/
def readMagnitude (negative : Bool) (text : List Char) : IntegerReading :=
  match digitValues text with
  | none => .malformed
  | some digits =>
    if digitLimit < digits.length then .tooLong digits.length
    else if negative then .value (-(ofDigits digits : Int))
    else .value (ofDigits digits)

/-- The blanks that may stand around an integer: all but the four separator
controls U+001C to U+001F. -/
def isIntegerBlank (c : Char) : Bool :=
  Unicode.isSpace c && !(0x1C ≤ c.toNat && c.toNat ≤ 0x1F)

/-- Reads an integer from a whole text. -/
def readInteger (text : List Char) : IntegerReading :=
  match Unicode.stripBy isIntegerBlank text with
  | '+' :: rest => readMagnitude false rest
  | '-' :: rest => readMagnitude true rest
  | digits => readMagnitude false digits

/-- What is said of a number with too many digits. -/
def tooLongMessage (digits : Nat) : String :=
  "Exceeds the limit (" ++ toString digitLimit ++ " digits) for integer string conversion: value has " ++
    toString digits ++ " digits; use sys.set_int_max_str_digits() to increase the limit"

/-! ## Writing -/

/-- Why an integer is not written. -/
inductive WriteError where
  | tooLong
  deriving Repr, DecidableEq

/-- What is said of it. -/
def WriteError.message : WriteError → String
  | .tooLong =>
    "Exceeds the limit (" ++ toString digitLimit ++
      " digits) for integer string conversion; use sys.set_int_max_str_digits() to increase the limit"

/-- A number that has no more digits than may be written. -/
def Writable (n : Nat) : Prop :=
  (Nat.toDigits 10 n).length ≤ digitLimit

instance : DecidablePred Writable :=
  fun _ => inferInstanceAs (Decidable (_ ≤ _))

/-- The text of a number. -/
def writeNumber (n : Nat) : Except WriteError String :=
  if Writable n then .ok (toString n) else .error .tooLong

/-- The text of an integer; its sign is no digit. -/
def writeInteger (n : Int) : Except WriteError String :=
  if Writable n.natAbs then .ok (toString n) else .error .tooLong

/-- A message; if there is a number in it that cannot be written, what is said
of that. -/
def messageOr (text : Except WriteError String) : String :=
  match text with
  | .ok text => text
  | .error why => why.message

end ImageSelect.Text
