import WindowSql.Number.Double

/-!
The text of a number: the fewest digits that read back as the same number.

`Decimal.shortest` searches the decimal grids from one digit to seventeen. On each grid only the
two neighbours of the value can be the nearest point, and a grid has a point inside the rounding
interval exactly when one of them is. `NumberLayout` holds what the text adds to the digits.
-/

namespace WindowSql

/-- The number `digits · 10 ^ power`. -/
structure Decimal where
  digits : Nat
  power : Int
  deriving DecidableEq, Repr

namespace Decimal

/-- How many decimal digits a number is written with. -/
def width (n : Nat) : Nat := (Nat.toDigits 10 n).length

/-- The power of ten of the leading digit of `num / den`, a positive ratio. -/
def magnitude (num den : Nat) : Int :=
  if den ≤ num then (width (num / den) : Int) - 1
  else -(width ((den + num - 1) / num - 1) : Int)

/-- The interval of values that round to one double, in quarters of its last place. -/
structure Interval where
  low : Nat
  value : Nat
  high : Nat
  closed : Bool

/-- Below a power of two the spacing halves, except at the smallest scale. -/
def Interval.around (m s : Nat) : Interval where
  low := if m = fractions ∧ 0 < s then 4 * m - 1 else 4 * m - 2
  value := 4 * m
  high := 4 * m + 2
  closed := m % 2 == 0

/-- A ratio of two naturals. -/
structure Ratio where
  num : Nat
  den : Nat

/-- `c · 10 ^ power` in quarters of the place `2 ^ (s - 1074)`. -/
def inQuarters (c : Nat) (power : Int) (s : Nat) : Ratio :=
  if 0 ≤ power then ⟨c * Nat.pow 10 power.toNat * Nat.pow 2 1076, Nat.pow 2 s⟩
  else ⟨c * Nat.pow 2 1076, Nat.pow 10 (-power).toNat * Nat.pow 2 s⟩

def Interval.contains (i : Interval) (x : Ratio) : Bool :=
  if i.closed then decide (i.low * x.den ≤ x.num) && decide (x.num ≤ i.high * x.den)
  else decide (i.low * x.den < x.num) && decide (x.num < i.high * x.den)

/-- Twice the distance question: is `c` nearer to the value than `c + 1` is? A tie goes to the even
digit. -/
def nearerLow (i : Interval) (c : Nat) (power : Int) (s : Nat) : Bool :=
  let mid := inQuarters (2 * c + 1) power s
  let value := 2 * i.value * mid.den
  if value = mid.num then c % 2 == 0 else decide (value < mid.num)

/-- The point of one grid that reads back and is nearest to the value. -/
def onGrid? (m s : Nat) (power : Int) : Option Nat :=
  let i := Interval.around m s
  let step := inQuarters 1 power s
  let low := i.value * step.den / step.num
  match i.contains (inQuarters low power s), i.contains (inQuarters (low + 1) power s) with
  | true, true => some (if nearerLow i low power s then low else low + 1)
  | true, false => some low
  | false, true => some (low + 1)
  | false, false => none

/-- The first of `steps` grids, from `power` downwards, that has a point reading back. -/
def firstGrid (m s : Nat) (power : Int) : Nat → Decimal
  | 0 => ⟨0, 0⟩
  | steps + 1 =>
    match onGrid? m s power with
    | some c => ⟨c, power⟩
    | none => firstGrid m s (power - 1) steps

/-- Takes trailing zeros off the digits, at most `steps` of them. -/
def trim (d : Decimal) : Nat → Decimal
  | 0 => d
  | steps + 1 =>
    if d.digits ≠ 0 ∧ d.digits % 10 = 0 then trim ⟨d.digits / 10, d.power + 1⟩ steps else d

/-- The shortest decimal that rounds to the magnitude `m · 2 ^ (s - 1074)`, `m` positive; of the
shortest the nearest. -/
def shortest (m s : Nat) : Decimal :=
  (firstGrid m s (magnitude (m * Nat.pow 2 s) (Nat.pow 2 1074)) 18).trim 18

end Decimal

/-- What the text of a number adds to its digits. -/
structure NumberLayout where
  /-- Decimal exponents from this one on are written with an exponent. -/
  largeFrom : Int
  /-- Decimal exponents below this one are written with an exponent. -/
  smallBelow : Int
  /-- The least count of exponent digits; its sign is always written. -/
  exponentDigits : Nat
  nan : String
  infinity : String

/-- The layout used everywhere: positional between `1e-4` and `1e16`, always with a point or an
exponent. -/
def NumberLayout.standard : NumberLayout where
  largeFrom := 16
  smallBelow := -4
  exponentDigits := 2
  nan := "nan"
  infinity := "inf"

namespace NumberLayout

def zeros (n : Nat) : List Char := List.replicate n '0'

/-- The exponent part, for instance `e+16` or `e-05`. -/
def exponent (layout : NumberLayout) (e : Int) : List Char :=
  let digits := Nat.toDigits 10 e.natAbs
  ['e', if e < 0 then '-' else '+'] ++ zeros (layout.exponentDigits - digits.length) ++ digits

/-- The digits with the point after the first `point` of them. -/
def positional (digits : List Char) (point : Int) : List Char :=
  if point ≤ 0 then ['0', '.'] ++ zeros (-point).toNat ++ digits
  else if point.toNat < digits.length then
    digits.take point.toNat ++ '.' :: digits.drop point.toNat
  else digits ++ zeros (point.toNat - digits.length) ++ ['.', '0']

def scientific (layout : NumberLayout) (digits : List Char) (e : Int) : List Char :=
  match digits with
  | [] => []
  | [d] => d :: layout.exponent e
  | d :: rest => d :: '.' :: rest ++ layout.exponent e

def decimal (layout : NumberLayout) (d : Decimal) : List Char :=
  let digits := Nat.toDigits 10 d.digits
  let e := d.power + digits.length - 1
  if e < layout.smallBelow ∨ layout.largeFrom ≤ e then layout.scientific digits e
  else positional digits (e + 1)

end NumberLayout

namespace Double

def magnitudeChars (layout : NumberLayout) (exponent : Fin 2047) (fraction : Fin fractions) :
    List Char :=
  let m := significand exponent fraction
  if m = 0 then ['0', '.', '0'] else layout.decimal (Decimal.shortest m (scale exponent))

/-- The shortest text that reads back as the number. -/
def text (x : Double) : String :=
  let layout := NumberLayout.standard
  match x with
  | nan => layout.nan
  | infinite negative => (if negative then "-" else "") ++ layout.infinity
  | finite negative e f =>
    (if negative then "-" else "") ++ String.ofList (magnitudeChars layout e f)

end Double

end WindowSql
