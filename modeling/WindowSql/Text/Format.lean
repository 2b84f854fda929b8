import WindowSql.Number.Double
import WindowSql.Text.DecimalDigit
import WindowSql.Text.Quoted

/-!
Format specifications: how a text or an integer is padded, signed, grouped and written.

A specification is `[[fill]align][sign][z][#][0][width][grouping][.precision][kind]`. Its parts are
read by `FormatSpec.parse`; `formatText` and `formatInteger` refuse the parts that mean nothing for
their value.
-/

namespace WindowSql.Text

inductive Align where
  | left | right | center | afterSign
  deriving DecidableEq, Repr

structure FormatSpec where
  fill : Char
  align : Align
  sign : Option Char
  /-- Negative zero is written without its sign. -/
  positiveZero : Bool
  /-- The alternate form, with the base in front or the point kept. -/
  alternate : Bool
  width : Nat
  grouping : Option Char
  precision : Option Nat
  kind : Char
  deriving DecidableEq, Repr

/-- What a format specification is applied to. -/
inductive Formatted where
  | text | integer
  deriving DecidableEq, Repr

inductive FormatFault where
  | tooManyDigits
  | missingPrecision
  | bothSeparators
  | separatorWith (separator kind : Char)
  | invalidSpec (spec : List Char) (of : Formatted)
  | unknownKind (kind : Char) (of : Formatted)
  | signInText (sign : Char)
  | positiveZero (of : Formatted)
  | alternateInText
  | alignInText
  | precisionInInteger
  | signWithCharacter
  | alternateWithCharacter
  | characterRange
  | characterTooLarge
  | tooLargeForFloat
  | precisionTooBig
  /-- The width is larger than can be written; this has no wording. -/
  | tooLong
  deriving DecidableEq, Repr

/-- A character in a message: itself if it is printable ASCII, else its code. -/
def shownKind (c : Char) : String :=
  if 32 < c.toNat ∧ c.toNat < 128 then String.singleton c
  else "\\x" ++ String.ofList (hex 1 c.toNat)

def Formatted.name : Formatted → String
  | text => "str"
  | integer => "int"

def FormatFault.message : FormatFault → String
  | tooManyDigits => "Too many decimal digits in format string"
  | missingPrecision => "Format specifier missing precision"
  | bothSeparators => "Cannot specify both ',' and '_'."
  | separatorWith separator kind =>
    "Cannot specify '" ++ String.singleton separator ++ "' with '" ++ shownKind kind ++ "'."
  | invalidSpec spec of =>
    "Invalid format specifier '" ++ String.ofList spec ++ "' for object of type '" ++ of.name ++ "'"
  | unknownKind kind of =>
    "Unknown format code '" ++ shownKind kind ++ "' for object of type '" ++ of.name ++ "'"
  | signInText sign =>
    (if sign = ' ' then "Space" else "Sign") ++ " not allowed in string format specifier"
  | positiveZero of =>
    "Negative zero coercion (z) not allowed in "
      ++ (match of with | .text => "string" | .integer => "integer") ++ " format specifier"
  | alternateInText => "Alternate form (#) not allowed in string format specifier"
  | alignInText => "'=' alignment not allowed in string format specifier"
  | precisionInInteger => "Precision not allowed in integer format specifier"
  | signWithCharacter => "Sign not allowed with integer format specifier 'c'"
  | alternateWithCharacter => "Alternate form (#) not allowed with integer format specifier 'c'"
  | characterRange => "%c arg not in range(0x110000)"
  | characterTooLarge => "Python int too large to convert to C long"
  | tooLargeForFloat => "int too large to convert to float"
  | precisionTooBig => "precision too big"
  | tooLong => ""

/-! ### Reading a specification -/

def align? : Char → Option Align
  | '<' => some .left
  | '>' => some .right
  | '^' => some .center
  | '=' => some .afterSign
  | _ => none

/-- The fill and the alignment, where they are given. -/
def readAlign (cs : List Char) : Option Char × Option Align × List Char :=
  let short := match cs with
    | a :: rest =>
      match align? a with
      | some al => (none, some al, rest)
      | none => (none, none, cs)
    | [] => (none, none, cs)
  match cs with
  | f :: a :: rest =>
    match align? a with
    | some al => (some f, some al, rest)
    | none => short
  | _ => short

/-- Takes one of the given characters off the front. -/
def readOne (choices : List Char) : List Char → Option Char × List Char
  | c :: rest => if choices.contains c then (some c, rest) else (none, c :: rest)
  | [] => (none, [])

/-- The largest count that can be written. -/
def countLimit : Nat := 9223372036854775807

/-- A count of decimal digits, nothing where there are none. -/
def readCount (cs : List Char) : Except FormatFault (Option Nat × List Char) :=
  let digits := cs.takeWhile isDecimalDigit
  let n := decimalValue digits
  if countLimit < n then .error .tooManyDigits
  else .ok (if digits.isEmpty then none else some n, cs.dropWhile isDecimalDigit)

def readGrouping (cs : List Char) : Except FormatFault (Option Char × List Char) :=
  match cs with
  | ',' :: '_' :: _ => .error .bothSeparators
  | '_' :: ',' :: _ => .error .bothSeparators
  | ',' :: rest => .ok (some ',', rest)
  | '_' :: rest => .ok (some '_', rest)
  | _ => .ok (none, cs)

def readPrecision (cs : List Char) : Except FormatFault (Option Nat × List Char) :=
  match cs with
  | '.' :: rest => do
    let (n, after) ← readCount rest
    match n with
    | some p => return (some p, after)
    | none => throw .missingPrecision
  | _ => return (none, cs)

/-- The kinds of values that are written in groups of digits. -/
def groupingAllowed (grouping kind : Char) : Bool :=
  ['d', 'e', 'f', 'g', 'E', 'G', '%', 'F'].contains kind
    || (grouping == '_' && ['b', 'o', 'x', 'X'].contains kind)

def FormatSpec.parse (of : Formatted) (cs : List Char) : Except FormatFault FormatSpec := do
  let (fill, align, cs₁) := readAlign cs
  let (sign, cs₂) := readOne [' ', '+', '-'] cs₁
  let (zero, cs₃) := readOne ['z'] cs₂
  let (alternate, cs₄) := readOne ['#'] cs₃
  let (pad, cs₅) := if fill.isNone then readOne ['0'] cs₄ else (none, cs₄)
  let (width, cs₆) ← readCount cs₅
  let (grouping, cs₇) ← readGrouping cs₆
  let (precision, cs₈) ← readPrecision cs₇
  let kind ← match cs₈ with
    | [] => pure (match of with | .text => 's' | .integer => 'd')
    | [c] => pure c
    | _ => throw (.invalidSpec cs of)
  match grouping with
  | some g => if !groupingAllowed g kind then throw (.separatorWith g kind)
  | none => pure ()
  let usual := match of, pad with
    | .text, _ => Align.left
    | .integer, some _ => .afterSign
    | .integer, none => .right
  return {
    fill := (fill.or pad).getD ' '
    align := align.getD usual
    sign := sign
    positiveZero := zero.isSome
    alternate := alternate.isSome
    width := width.getD 0
    grouping := grouping
    precision := precision
    kind := kind }

/-! ### Writing a value -/

/-- The largest width that is written, two to the 32. -/
def widthLimit : Nat := 4294967296

/-- The largest number of decimals that is written. -/
def precisionLimit : Nat := 2147483647

/-- The padding on the left and on the right. -/
def padding (align : Align) (n : Nat) : Nat × Nat :=
  match align with
  | .left => (0, n)
  | .right => (n, 0)
  | .center => (n / 2, n - n / 2)
  | .afterSign => (0, 0)

def formatText (spec : List Char) (cs : List Char) : Except FormatFault (List Char) := do
  if spec.isEmpty then return cs
  let f ← FormatSpec.parse .text spec
  if f.kind ≠ 's' then throw (.unknownKind f.kind .text)
  if let some sign := f.sign then throw (.signInText sign)
  if f.positiveZero then throw (.positiveZero .text)
  if f.alternate then throw .alternateInText
  if f.align = .afterSign then throw .alignInText
  if widthLimit < f.width then throw .tooLong
  let shown := match f.precision with
    | some p => cs.take p
    | none => cs
  let (left, right) := padding f.align (f.width - shown.length)
  return List.replicate left f.fill ++ shown ++ List.replicate right f.fill

/-- Digits from the last one on in groups, with zeros up to a least width. -/
def groupReversed (separator : List Char) (size : Nat) (first : Bool) (least : Int)
    (digits : List Char) : Nat → List Char
  | 0 => []
  | steps + 1 =>
    let length := min size (max (max digits.length least.toNat) 1)
    let group := digits.take length
    let written := (if first then [] else separator) ++ group
      ++ List.replicate (length - group.length) '0'
    let rest := digits.drop length
    let least := least - length
    if rest.isEmpty ∧ least ≤ 0 then written
    else written ++ groupReversed separator size false (least - separator.length) rest steps

/-- Digits in groups, at least `least` characters wide. -/
def groupDigits (separator : Option Char) (size : Nat) (least : Int) (digits : List Char) :
    List Char :=
  let steps := digits.length + least.toNat + 1
  let size := if separator.isSome then size else steps
  (groupReversed separator.toList size true least digits.reverse steps).reverse

/-- A number from its sign, what stands before its digits, the digits of its whole part, and what
follows them. -/
def layoutNumber (f : FormatSpec) (negative : Bool) (lead digits tail : List Char) :
    List Char :=
  let sign := if negative then ['-'] else match f.sign with
    | some '+' => ['+']
    | some ' ' => [' ']
    | _ => []
  let fixed := sign.length + lead.length + tail.length
  let least : Int := if f.fill = '0' ∧ f.align = .afterSign then f.width - fixed else 0
  let size := if ['b', 'o', 'x', 'X'].contains f.kind then 4 else 3
  let whole := if digits.isEmpty then [] else groupDigits f.grouping size least digits
  let missing := f.width - (fixed + whole.length)
  let (left, right) := padding f.align missing
  let inside := if f.align = .afterSign then missing else 0
  List.replicate left f.fill ++ sign ++ lead ++ List.replicate inside f.fill ++ whole ++ tail
    ++ List.replicate right f.fill

/-- A number as `layoutNumber` has it, unless it is too wide. -/
def layoutNumber? (f : FormatSpec) (negative : Bool) (lead digits tail : List Char) :
    Except FormatFault (List Char) :=
  if widthLimit < f.width then .error .tooLong
  else .ok (layoutNumber f negative lead digits tail)

/-- The first significant digits of a natural, rounded to `count` of them where it has more, and its
decimal exponent. -/
def significantDigits (n count : Nat) : List Char × Nat :=
  let digits := Nat.toDigits 10 n
  if digits.length ≤ count then (digits, digits.length - 1)
  else
    let rounded := Nat.toDigits 10 (Double.roundDiv n (Nat.pow 10 (digits.length - count)))
    (rounded.take count, digits.length - 1 + (rounded.length - count))

/-- Digits with zeros behind them, `count` in all. -/
def fillZeros (count : Nat) (cs : List Char) : List Char :=
  cs ++ List.replicate (count - cs.length) '0'

def trimZeros (cs : List Char) : List Char := (cs.reverse.dropWhile (· == '0')).reverse

/-- The decimal point and the digits after it; without digits the point is left out unless kept. -/
def pointed (keep : Bool) (decimals : List Char) : List Char :=
  if decimals.isEmpty && !keep then [] else '.' :: decimals

def exponentText (capital : Bool) (e : Nat) : List Char :=
  let digits := Nat.toDigits 10 e
  (if capital then 'E' else 'e') :: '+' :: List.replicate (2 - digits.length) '0' ++ digits

/-- A whole number in a floating format: the digits before the point, and what follows them. -/
def floatParts (f : FormatSpec) (n : Nat) : List Char × List Char :=
  let precision := f.precision.getD 6
  let capital := f.kind == 'E' || f.kind == 'G'
  if f.kind = 'e' ∨ f.kind = 'E' then
    let (digits, e) := significantDigits n (precision + 1)
    let decimals := fillZeros precision (digits.drop 1)
    (digits.take 1, pointed f.alternate decimals ++ exponentText capital e)
  else if f.kind = 'g' ∨ f.kind = 'G' then
    let count := max precision 1
    let (digits, e) := significantDigits n count
    let whole := if e < count then e + 1 else 1
    let decimals := if f.alternate then fillZeros (count - whole) (digits.drop whole)
      else trimZeros (digits.drop whole)
    (digits.take whole, pointed f.alternate decimals
      ++ if e < count then [] else exponentText capital e)
  else (Nat.toDigits 10 n, pointed f.alternate (List.replicate precision '0'))

/-- An integer in a floating format is taken as the number nearest to it; a percentage is a hundred
times that number, and is infinite where this is too large. -/
def formatFloat (f : FormatSpec) (i : Int) : Except FormatFault (List Char) :=
  match (Double.ofInt i).toInt? with
  | none => .error .tooLargeForFloat
  | some n =>
    if precisionLimit < f.precision.getD 6 then .error .precisionTooBig
    else
      let percent := f.kind == '%'
      let scaled := if percent then (Double.ofInt (100 * n)).toInt? else some n
      let (digits, tail) := match scaled with
        | some m => floatParts f m.natAbs
        | none => ([], "inf".toList)
      layoutNumber? f (n < 0) [] digits (if percent then tail ++ ['%'] else tail)

/-- The base of a kind of integer and the letters its alternate form has in front. -/
def base? : Char → Option (Nat × List Char)
  | 'b' => some (2, ['0', 'b'])
  | 'o' => some (8, ['0', 'o'])
  | 'x' => some (16, ['0', 'x'])
  | 'X' => some (16, ['0', 'X'])
  | 'd' | 'n' => some (10, [])
  | _ => none

def formatCharacter (f : FormatSpec) (i : Int) : Except FormatFault (List Char) :=
  if f.sign.isSome then .error .signWithCharacter
  else if f.alternate then .error .alternateWithCharacter
  else if i < -(countLimit + 1) ∨ countLimit < i then .error .characterTooLarge
  else if i < 0 ∨ 0x10ffff < i then .error .characterRange
  else layoutNumber? f false [] [] [Char.ofNat i.toNat]

def formatInteger (spec : List Char) (i : Int) : Except FormatFault (List Char) := do
  if spec.isEmpty then return (toString i).toList
  let f ← FormatSpec.parse .integer spec
  if ['e', 'E', 'f', 'F', 'g', 'G', '%'].contains f.kind then formatFloat f i
  else if f.kind ≠ 'c' ∧ (base? f.kind).isNone then throw (.unknownKind f.kind .integer)
  else if f.precision.isSome then throw .precisionInInteger
  else if f.positiveZero then throw (.positiveZero .integer)
  else match base? f.kind with
    | none => formatCharacter f i
    | some (base, lead) =>
      let digits := Nat.toDigits base i.natAbs
      let digits := if f.kind = 'X' then digits.map Char.toUpper else digits
      layoutNumber? f (i < 0) (if f.alternate then lead else []) digits []

end WindowSql.Text
