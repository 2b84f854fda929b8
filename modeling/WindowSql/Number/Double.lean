/-!
Binary64 numbers as data.

A finite number is kept by its fields, so two numbers are equal exactly when they are the same
word; `-0.0` and `0.0` stay apart. All arithmetic is exact and on integers:
`ofDecimal` rounds a decimal to the nearest number, ties to the even significand, and `isInt` and
`sameValue` compare by exact value.
-/

namespace WindowSql

/-- Two to the 52: the number of fractions of one exponent. -/
abbrev fractions : Nat := 4503599627370496

/-- A binary64 number. The biased exponent of a finite number is below 2047. -/
inductive Double where
  | nan
  | infinite (negative : Bool)
  | finite (negative : Bool) (exponent : Fin 2047) (fraction : Fin fractions)
  deriving DecidableEq, Repr

namespace Double

def zero (negative : Bool) : Double := .finite negative 0 0

instance : Inhabited Double := ⟨zero false⟩

/-- The integer `m` of a finite magnitude `m · 2 ^ (scale - 1074)`. -/
def significand (exponent : Fin 2047) (fraction : Fin fractions) : Nat :=
  if exponent.val = 0 then fraction.val else fractions + fraction.val

/-- The power of two of a finite magnitude, counted from the smallest one. -/
def scale (exponent : Fin 2047) : Nat := exponent.val - 1

/-- The magnitude `m · 2 ^ (s - 1074)` for `m ≤ 2 ^ 53`; a significand that does not fill 52 bits
is only met at the smallest scale. -/
def ofSignificand (negative : Bool) (m s : Nat) : Double :=
  if m < fractions then .finite negative 0 (Fin.ofNat fractions m)
  else
    let (m, s) := if m = 2 * fractions then (fractions, s + 1) else (m, s)
    if h : s + 1 < 2047 then .finite negative ⟨s + 1, h⟩ (Fin.ofNat fractions (m - fractions))
    else .infinite negative

/-- `num / den` to the nearest integer, ties to the even one. -/
def roundDiv (num den : Nat) : Nat :=
  let q := num / den
  let r := num % den
  if 2 * r < den then q
  else if den < 2 * r then q + 1
  else if q % 2 = 0 then q else q + 1

/-- The scale at which `num / den` has a significand of 53 bits, or the smallest scale. -/
def scaleOf (num den : Nat) : Nat :=
  let gap := (num.log2 : Int) - den.log2
  let low := if gap < 0 then num * Nat.pow 2 (-gap).toNat < den
    else num < den * Nat.pow 2 gap.toNat
  let exponent := if low then gap - 1 else gap
  (exponent - 52 + 1074).toNat

/-- The number nearest to `num / den`. -/
def ofRatio (negative : Bool) (num den : Nat) : Double :=
  let s := scaleOf num den
  ofSignificand negative (roundDiv (num * Nat.pow 2 1074) (den * Nat.pow 2 s)) s

/-- The number nearest to `digits · 10 ^ power`. Powers far outside the range are not expanded. -/
def ofDecimal (negative : Bool) (digits : Nat) (power : Int) : Double :=
  if digits = 0 then zero negative
  else if 400 < power then .infinite negative
  else if (digits.log2 : Int) + 3 * power < -1100 then zero negative
  else if 0 ≤ power then ofRatio negative (digits * Nat.pow 10 power.toNat) 1
  else ofRatio negative digits (Nat.pow 10 (-power).toNat)

def ofInt (i : Int) : Double := ofDecimal (decide (i < 0)) i.natAbs 0

/-- The integer that a number is, if it is one. -/
def toInt? : Double → Option Int
  | .finite negative exponent fraction =>
    let m := significand exponent fraction
    let n := m * Nat.pow 2 (scale exponent)
    if n % Nat.pow 2 1074 = 0 then
      let magnitude : Int := (n / Nat.pow 2 1074 : Nat)
      some (if negative then -magnitude else magnitude)
    else none
  | _ => none

/-- A finite value in units of the smallest positive number. -/
def units (negative : Bool) (exponent : Fin 2047) (fraction : Fin fractions) : Int :=
  let magnitude : Int := (significand exponent fraction * Nat.pow 2 (scale exponent) : Nat)
  if negative then -magnitude else magnitude

/-- Whether a number has exactly the value of an integer. -/
def isInt : Double → Int → Bool
  | .finite negative exponent fraction, i =>
    units negative exponent fraction == i * (Nat.pow 2 1074 : Nat)
  | _, _ => false

/-- Equality by value: both zeros are one value. A NaN is the same as a NaN, so that an expression
is the same as itself. -/
def sameValue : Double → Double → Bool
  | .finite n e f, .finite n' e' f' => units n e f == units n' e' f'
  | a, b => a == b

end Double

end WindowSql
