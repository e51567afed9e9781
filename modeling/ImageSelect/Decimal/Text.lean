import ImageSelect.Decimal.Shortest

/-!
# The text of a number

A number is written with its shortest digits, positionally while the point
lies from three places left of the first digit to sixteen places right of
it, and with a power of ten otherwise.  A point is always shown with a digit
on both sides in positional form.
-/

namespace ImageSelect.Decimal

/-- The finite number that the 64 bits of a floating point number stand for,
its sign taken off. -/
def binaryOfBits (bits : Nat) : Binary :=
  let fraction : Nat := bits % Nat.pow 2 52
  let biased : Nat := bits / Nat.pow 2 52 % Nat.pow 2 11
  if biased = 0 then ⟨fraction, -1074, false⟩
  else ⟨Nat.pow 2 52 + fraction, (biased : Int) - 1075, fraction = 0 && 1 < biased⟩

/-- Digits with a point among them. -/
def positional (digits : List Char) (point : Int) : List Char :=
  if point ≤ 0 then '0' :: '.' :: List.replicate (-point).toNat '0' ++ digits
  else
    let size := point.toNat
    if digits.length ≤ size then
      digits ++ List.replicate (size - digits.length) '0' ++ ['.', '0']
    else digits.take size ++ '.' :: digits.drop size

/-- Digits with a power of ten. -/
def scientific (digits : List Char) (point : Int) : List Char :=
  let exponent := point - 1
  let sign := if exponent < 0 then '-' else '+'
  let power := Nat.toDigits 10 exponent.natAbs
  let padded := List.replicate (2 - power.length) '0' ++ power
  let head :=
    match digits with
    | [] => []
    | [d] => [d]
    | d :: more => d :: '.' :: more
  head ++ 'e' :: sign :: padded

/-- The text of a number given by its 64 bits. -/
def textOfBits (bits : Nat) : List Char :=
  let sign := if Nat.pow 2 63 ≤ bits then ['-'] else []
  let magnitude := bits % Nat.pow 2 63
  if magnitude = 0 then sign ++ ['0', '.', '0']
  else if magnitude / Nat.pow 2 52 = 2047 then
    if magnitude % Nat.pow 2 52 = 0 then sign ++ ['i', 'n', 'f'] else ['n', 'a', 'n']
  else
    let (digits, point) := shortest (binaryOfBits magnitude)
    sign ++ (if -4 < point && point ≤ 16 then positional digits point else scientific digits point)

/-- The text of a floating point number. -/
def text (x : Float) : String :=
  String.ofList (textOfBits x.toBits.toNat)

end ImageSelect.Decimal
