import ObjectVault.Number.Binary64

/-!
# The shortest decimal of a floating point number

The decimals that read back as a given number fill an interval around it, ends included exactly when
its mantissa is even. `shortest` takes one with the fewest digits in that interval, and of those the
nearest; a `Layout` says which way a tie goes and where the point is written.
-/

namespace ObjectVault

namespace Binary64

structure Layout where
  /-- Whether a number whose point stands behind that many digits is written without an exponent. -/
  positional : Int → Bool
  /-- Whether of two equally near decimals the one with the even last digit is taken, rather than
  the larger one. -/
  tieToEven : Bool

/-! ### Digits -/

/-- A positive number and the ends of the interval that reads back as it, all in units of
`10 ^ exponent`. -/
structure Interval where
  low : Nat
  value : Nat
  high : Nat
  exponent : Int
  closed : Bool

/-- The interval of `mantissa * 2 ^ exponent`. Below a full mantissa's least value the numbers lie
half as far apart as above it. -/
def interval (mantissa : Nat) (exponent : Int) : Interval :=
  let quarter := exponent - 2
  let unit := Nat.pow 2 quarter.toNat * Nat.pow 5 (-quarter).toNat
  let narrow := mantissa = Nat.pow 2 (precision - 1) ∧ minExponent < exponent
  { low := (4 * mantissa - if narrow then 1 else 2) * unit
    value := 4 * mantissa * unit
    high := (4 * mantissa + 2) * unit
    exponent := min quarter 0
    closed := mantissa % 2 = 0 }

/-- Whether a decimal in the interval's units reads back as its number. -/
def Interval.holds (i : Interval) (decimal : Nat) : Bool :=
  if i.closed then i.low ≤ decimal && decimal ≤ i.high else i.low < decimal && decimal < i.high

/-- The better of the two neighbours of the value on the grid of multiples of `step`, as a multiple
of it, where one of them reads back. -/
def Interval.onGrid (i : Interval) (tieToEven : Bool) (step : Nat) : Option Nat :=
  let below := i.value / step
  let above := below + 1
  match i.holds (below * step), i.holds (above * step) with
  | false, false => none
  | true, false => some below
  | false, true => some above
  | true, true =>
      match compare (2 * i.value) ((below + above) * step) with
      | .lt => some below
      | .gt => some above
      | .eq => some (if tieToEven && below % 2 = 0 then below else above)

/-- The digits of a decimal and its exponent, without zeros at the end; `fuel` bounds how many are
taken away. -/
def stripZeros : (fuel : Nat) → Nat → Int → Nat × Int
  | 0, digits, exponent => (digits, exponent)
  | fuel + 1, digits, exponent =>
      if digits ≠ 0 ∧ digits % 10 = 0 then stripZeros fuel (digits / 10) (exponent + 1)
      else (digits, exponent)

/-- The decimal with the fewest digits that reads back as a positive number, as its digits and the
exponent of ten of the last one. -/
def shortest (tieToEven : Bool) (mantissa : Nat) (exponent : Int) : Nat × Int :=
  let i := interval mantissa exponent
  let size := (Nat.toDigits 10 i.value).length
  let found := (List.range size).findSome? fun n =>
    let places := size - (n + 1)
    (i.onGrid tieToEven (Nat.pow 10 places)).map fun digits => (digits, i.exponent + places)
  let (digits, last) := found.getD (i.value, i.exponent)
  stripZeros size digits last

/-! ### Text -/

/-- Digits with their point behind the first `point` of them. -/
def positionalText (digits : List Char) (point : Int) : List Char :=
  let before := point.toNat
  if point ≤ 0 then "0.".toList ++ List.replicate (-point).toNat '0' ++ digits
  else if digits.length ≤ before then
    digits ++ List.replicate (before - digits.length) '0' ++ ".0".toList
  else digits.take before ++ '.' :: digits.drop before

/-- Digits with their point behind the first one, and the exponent of ten with its sign. -/
def exponentText (digits : List Char) (point : Int) : List Char :=
  let mantissa :=
    match digits with
    | [] => []
    | [digit] => [digit]
    | digit :: rest => digit :: '.' :: rest
  mantissa ++ 'e' :: (if point ≤ 0 then '-' else '+') :: (toString (point - 1).natAbs).toList

/-- The text of a positive number. -/
def magnitudeText (layout : Layout) (mantissa : Nat) (exponent : Int) : List Char :=
  let (digits, last) := shortest layout.tieToEven mantissa exponent
  let digits := Nat.toDigits 10 digits
  let point := digits.length + last
  if layout.positional point then positionalText digits point else exponentText digits point

/-- The text of a number. A finite one always shows a point or an exponent. -/
def text (layout : Layout) : Binary64 → String
  | .nan => "NaN"
  | .infinite negative => if negative then "-inf" else "inf"
  | .finite negative mantissa exponent =>
      let magnitude := if mantissa = 0 then "0.0".toList else magnitudeText layout mantissa exponent
      String.ofList (if negative then '-' :: magnitude else magnitude)

end Binary64

end ObjectVault
