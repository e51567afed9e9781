/-!
# Shortest decimal digits

A binary floating point number `significand · 2 ^ exponent` is the nearest
one to a whole interval of numbers.  Its shortest decimal digits are the
fewest that name a number in that interval, and the nearest of those.
-/

namespace ImageSelect.Decimal

/-- A positive finite number with the spacing of its neighbours. -/
structure Binary where
  significand : Nat
  exponent : Int
  /-- Whether the next number below is only half as far as the next above. -/
  closeBelow : Bool
  deriving Repr, DecidableEq

/-- The numbers of a binary number's interval, as quarters of
`2 ^ exponent`. -/
structure Interval where
  low : Nat
  middle : Nat
  high : Nat
  /-- Whether the two ends belong to it. -/
  closed : Bool

/-- The interval of numbers to which a binary number is the nearest. -/
def Binary.interval (x : Binary) : Interval :=
  { low := 4 * x.significand - (if x.closeBelow then 1 else 2)
    middle := 4 * x.significand
    high := 4 * x.significand + 2
    closed := x.significand % 2 = 0 }

/-- The number of decimal digits of a positive number. -/
def width (n : Nat) : Nat :=
  (Nat.toDigits 10 n).length

/-- A fraction scaled by a power of two and a power of ten. -/
def scaled (n : Nat) (twos tens : Int) : Nat × Nat :=
  (n * Nat.pow 2 twos.toNat * Nat.pow 10 tens.toNat,
    Nat.pow 2 (-twos).toNat * Nat.pow 10 (-tens).toNat)

/-- The place of the decimal point: the least `p` with the number below
`10 ^ p`, found from a bound that is too small by one or two at most. -/
def pointOf (x : Binary) : Int :=
  let (n, d) := scaled x.significand x.exponent 0
  let start : Int := (width n : Int) - (width d : Int)
  let below (p : Int) : Bool := n * Nat.pow 10 (-p).toNat < d * Nat.pow 10 p.toNat
  if below start then start else if below (start + 1) then start + 1 else start + 2

/-- The number of the decimal grid with `places` digits that lies in the
interval, if there is one; of two the nearer, and of two equally near the
even one. -/
def onGrid? (x : Binary) (point : Int) (places : Nat) : Option Nat :=
  let interval := x.interval
  let tens : Int := places - point
  let (middle, unit) := scaled interval.middle (x.exponent - 2) tens
  let (low, _) := scaled interval.low (x.exponent - 2) tens
  let (high, _) := scaled interval.high (x.exponent - 2) tens
  let floor := middle / unit
  let inside (n : Nat) : Bool :=
    if interval.closed then low ≤ n * unit && n * unit ≤ high
    else low < n * unit && n * unit < high
  let twice := 2 * (middle - floor * unit)
  let floorFirst := twice < unit || (twice = unit && floor % 2 = 0)
  match inside floor, inside (floor + 1) with
  | true, true => some (if floorFirst then floor else floor + 1)
  | true, false => some floor
  | false, true => some (floor + 1)
  | false, false => none

/-- A digit string without its zeros at the end. -/
def dropZeros (digits : List Char) : List Char :=
  (digits.reverse.dropWhile (· = '0')).reverse

/-- The shortest digits of a binary number and the place of the point. -/
def shortest (x : Binary) : List Char × Int :=
  let point := pointOf x
  let found := (List.range 17).findSome? fun places =>
    (onGrid? x point (places + 1)).map fun n => (n, places + 1)
  match found with
  | none => ([], point)
  | some (n, places) =>
    let digits := Nat.toDigits 10 n
    (dropZeros digits, point + (digits.length - places : Int))

end ImageSelect.Decimal
