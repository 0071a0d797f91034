import ObjectVault.Bytes
import ObjectVault.Toml.Value

/-!
# Scalars

Values that are written without quotes or brackets: truth values, integers, floating point numbers,
dates and times. A scalar is a word of its own, so each kind is a test on all of its characters; no
word is of two kinds.
-/

namespace ObjectVault.Toml.Scalar

/-! ### Digits -/

/-- The value of a digit in a base up to sixteen. -/
def digit? (base : Nat) (c : Char) : Option Nat :=
  (Bytes.hexValue? c).filter (· < base)

/-- The values of digits, between any two of which one underscore may stand. -/
def digits? (base : Nat) : List Char → Option (List Nat)
  | [] => none
  | [c] => (digit? base c).map ([·])
  | c :: '_' :: rest => do return (← digit? base c) :: (← digits? base rest)
  | c :: rest => do return (← digit? base c) :: (← digits? base rest)

def ofDigits (base : Nat) (digits : List Nat) : Nat :=
  digits.foldl (fun number digit => number * base + digit) 0

/-- Decimal digits of which the first is no zero, unless it is the only one. -/
def wholeDigits? (chars : List Char) : Option (List Nat) := do
  let digits ← digits? 10 chars
  if digits.head? = some 0 ∧ digits.length ≠ 1 then none else some digits

/-- A word without its sign, and whether that is a minus. -/
def unsigned : List Char → Bool × List Char
  | '-' :: rest => (true, rest)
  | '+' :: rest => (false, rest)
  | chars => (false, chars)

/-! ### Numbers -/

def inRange (n : Int) : Bool := -0x8000000000000000 ≤ n && n < 0x8000000000000000

/-- A number with the sign that stands before it. -/
def signed (negative : Bool) (size : Nat) : Int := if negative then -(size : Int) else size

/-- Digits in base ten with or without a sign, or in another base behind its mark. -/
def integerDigits? : List Char → Option Int
  | '0' :: 'x' :: rest => (digits? 16 rest).map fun digits => ofDigits 16 digits
  | '0' :: 'o' :: rest => (digits? 8 rest).map fun digits => ofDigits 8 digits
  | '0' :: 'b' :: rest => (digits? 2 rest).map fun digits => ofDigits 2 digits
  | chars =>
      (wholeDigits? (unsigned chars).2).map fun digits =>
        signed (unsigned chars).1 (ofDigits 10 digits)

def integer? (chars : List Char) : Option Int := (integerDigits? chars).filter inRange

/-- The exponent that stands behind the letter `e`. -/
def exponent? (chars : List Char) : Option Int := do
  let (negative, chars) := unsigned chars
  return signed negative (ofDigits 10 (← digits? 10 chars))

/-- A number with a point, an exponent or both. One too large to be finite is refused, unless it is
negative. -/
def decimal? (chars : List Char) : Option Binary64 := do
  let (negative, chars) := unsigned chars
  let isMark (c : Char) : Bool := c = '.' || c = 'e' || c = 'E'
  let whole ← wholeDigits? (chars.takeWhile (!isMark ·))
  let (fraction, rest) ← match chars.dropWhile (!isMark ·) with
    | '.' :: rest =>
        let isExponent (c : Char) : Bool := c = 'e' || c = 'E'
        (digits? 10 (rest.takeWhile (!isExponent ·))).map (·, rest.dropWhile (!isExponent ·))
    | [] => none
    | rest => some ([], rest)
  let exponent ← match rest with
    | [] => some 0
    | _ :: rest => exponent? rest
  match Binary64.ofDecimal negative (ofDigits 10 (whole ++ fraction)) (exponent - fraction.length) with
  | .infinite false => none
  | number => some number

def float? (chars : List Char) : Option Binary64 :=
  let (negative, name) := unsigned chars
  if name = "inf".toList then some (.infinite negative)
  else if name = "nan".toList then some .nan
  else decimal? chars

/-! ### Dates and times -/

/-- The number that exactly as many decimal digits spell. -/
def fixed? (size : Nat) (chars : List Char) : Option Nat :=
  if chars.length = size then (chars.mapM (digit? 10)).map (ofDigits 10) else none

/-- Whether exactly two digits spell a number up to `limit`. -/
def isPair (limit : Nat) (chars : List Char) : Bool := (fixed? 2 chars).any (· ≤ limit)

def isLeap (year : Nat) : Bool := year % 4 = 0 && (year % 100 ≠ 0 || year % 400 = 0)

def daysIn (year month : Nat) : Nat :=
  if month = 2 then if isLeap year then 29 else 28
  else if month = 4 ∨ month = 6 ∨ month = 9 ∨ month = 11 then 30
  else 31

/-- Year, month and day with hyphens between, as a day that exists. -/
def isDate (chars : List Char) : Bool :=
  match fixed? 4 (chars.take 4), fixed? 2 ((chars.drop 5).take 2), fixed? 2 (chars.drop 8) with
  | some year, some month, some day =>
      chars[4]? = some '-' && chars[7]? = some '-' && 1 ≤ month && month ≤ 12 && 1 ≤ day
        && day ≤ daysIn year month
  | _, _, _ => false

/-- A point and digits, or nothing. -/
def isFraction : List Char → Bool
  | [] => true
  | '.' :: rest => !rest.isEmpty && rest.all Char.isDigit
  | _ => false

/-- Hour, minute and second with colons between, perhaps with a fraction of the second. The second
may be a leap second. -/
def isTime (chars : List Char) : Bool :=
  isPair 23 (chars.take 2) && chars[2]? = some ':' && isPair 59 ((chars.drop 3).take 2)
    && chars[5]? = some ':' && isPair 60 ((chars.drop 6).take 2) && isFraction (chars.drop 8)

/-- Hour and minute with a colon between. -/
def isOffset (chars : List Char) : Bool :=
  isPair 23 (chars.take 2) && chars[2]? = some ':' && isPair 59 (chars.drop 3)

/-- A time, perhaps with its distance from universal time. -/
def isZonedTime (chars : List Char) : Bool :=
  let isZone (c : Char) : Bool := c = 'Z' || c = 'z' || c = '+' || c = '-'
  isTime (chars.takeWhile (!isZone ·)) &&
    match chars.dropWhile (!isZone ·) with
    | [] => true
    | c :: rest => if c = '+' || c = '-' then isOffset rest else rest.isEmpty

def isDateTime (chars : List Char) : Bool :=
  isDate chars || isTime chars ||
    (isDate (chars.take 10) && (chars[10]? = some 'T' || chars[10]? = some 't')
      && isZonedTime (chars.drop 11))

/-! ### Words -/

def ofWord? (word : List Char) : Option Value :=
  if word = "true".toList then some (.boolean true)
  else if word = "false".toList then some (.boolean false)
  else if isDateTime word then some .datetime
  else ((integer? word).map .integer).or ((float? word).map .float)

/-- The characters that end a word. -/
def endsWord (c : Char) : Bool :=
  c = ' ' || c = '\t' || c = '\n' || c = '\r' || c = '#' || c = ',' || c = ']' || c = '\x7d'

/-- Reads the scalar at the start of a text. A blank may stand between a date and a time. -/
def read (chars : List Char) : Option (Value × List Char) := do
  let word := chars.takeWhile (!endsWord ·)
  let rest := chars.dropWhile (!endsWord ·)
  let value ← ofWord? word
  match isDate word, rest with
  | true, ' ' :: after =>
      if isZonedTime (after.takeWhile (!endsWord ·)) then
        return (.datetime, after.dropWhile (!endsWord ·))
      else return (value, rest)
  | _, _ => return (value, rest)

end ObjectVault.Toml.Scalar
