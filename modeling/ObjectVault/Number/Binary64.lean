/-!
# Floating point numbers

Numbers with a mantissa below 2^53 and a binary exponent between -1074 and 971, two infinities, and
one value that is no number. Nothing is computed with them: they are read from decimal digits, where
`ofDecimal` takes the nearest one and of two equally near ones the one with the even mantissa, and
they are shown.
-/

namespace ObjectVault

inductive Binary64 where
  /-- The number `mantissa * 2 ^ exponent` or its negative. -/
  | finite (negative : Bool) (mantissa : Nat) (exponent : Int)
  | infinite (negative : Bool)
  | nan
  deriving DecidableEq, Repr

namespace Binary64

def precision : Nat := 53

def minExponent : Int := -1074

def maxExponent : Int := 971

/-- The quotient rounded to the nearest integer, a half to the even neighbour. -/
def roundHalfEven (num den : Nat) : Nat :=
  let floor := num / den
  match compare (2 * (num % den)) den with
  | .lt => floor
  | .gt => floor + 1
  | .eq => if floor % 2 = 0 then floor else floor + 1

/-- Whether `num / den` is at least `2 ^ exponent`. -/
def reaches (num den : Nat) (exponent : Int) : Bool :=
  den * Nat.pow 2 exponent.toNat ≤ num * Nat.pow 2 (-exponent).toNat

/-- The exponent with which the positive quotient `num / den` has a full mantissa, as far as the
smallest exponent allows. -/
def exponentOf (num den : Nat) : Int :=
  let log : Int := (num.log2 : Int) - den.log2
  let top := if reaches num den log then log else log - 1
  max (top - (precision - 1)) minExponent

/-- The number nearest to the positive quotient `num / den`. -/
def ofRatio (negative : Bool) (num den : Nat) : Binary64 :=
  let exponent := exponentOf num den
  let mantissa :=
    roundHalfEven (num * Nat.pow 2 (-exponent).toNat) (den * Nat.pow 2 exponent.toNat)
  let (mantissa, exponent) :=
    if mantissa = Nat.pow 2 precision then (Nat.pow 2 (precision - 1), exponent + 1)
    else (mantissa, exponent)
  if maxExponent < exponent then .infinite negative else .finite negative mantissa exponent

/-- The number nearest to `digits * 10 ^ exponent`. Past 10^310 everything is infinite, and below
10^-330 everything is zero. -/
def ofDecimal (negative : Bool) (digits : Nat) (exponent : Int) : Binary64 :=
  let size : Int := (Nat.toDigits 10 digits).length + exponent
  if digits = 0 ∨ size < -330 then .finite negative 0 0
  else if 310 < size then .infinite negative
  else ofRatio negative (digits * Nat.pow 10 exponent.toNat) (Nat.pow 10 (-exponent).toNat)

end Binary64

end ObjectVault
