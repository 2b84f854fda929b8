import WindowSql.Json

/-!
Reading JSON text, with the place of the first thing that is wrong.

A reader takes the characters that are left and returns a value with what is left after it; the
result type says that this is shorter, which is why reading ends. A failure counts the characters
left, and `read` turns that into a position. Besides the numbers of JSON the constants `NaN`,
`Infinity` and `-Infinity` are read, a number beyond the range is infinite, and of two fields of one
name the later value counts. Integers that are too long, and arrays and objects that are nested too
deep, are refused by the limits.
-/

namespace WindowSql.Json

inductive Flaw where
  | expectingValue
  | expectingName
  | expectingColon
  | expectingComma
  | extraData
  | unterminatedString
  | controlCharacter
  | unknownEscape
  | codeEscape
  | byteOrderMark
  | integerTooLong (limit digits : Nat)
  /-- An array or an object is opened inside as many as may be open. -/
  | nestedTooDeep (container : String)
  deriving DecidableEq, Repr

structure Failure where
  flaw : Flaw
  /-- How many characters are left where the flaw is noticed. -/
  remaining : Nat
  deriving DecidableEq, Repr

/-- A value and the shorter rest that follows it. -/
abbrev Reads (α : Type) (cs : List Char) :=
  Except Failure { r : α × List Char // r.2.length < cs.length }

def isSpace (c : Char) : Bool := c == ' ' || c == '\t' || c == '\n' || c == '\r'

/-- What is left after blanks. -/
def skip (cs : List Char) : List Char := cs.dropWhile isSpace

theorem length_skip_le (cs : List Char) : (skip cs).length ≤ cs.length :=
  (List.dropWhile_sublist _).length_le

/-- What is left after blanks and the character `c`, if that comes next. -/
def past? (c : Char) (cs : List Char) : Option { r : List Char // r.length < cs.length } :=
  match h : skip cs with
  | d :: rest =>
    if d = c then some ⟨rest, by have := length_skip_le cs; simp [h] at this; omega⟩ else none
  | [] => none

/-- The value of four hexadecimal digits. -/
def hexCode? (digits : List Char) : Option Nat :=
  digits.foldlM (fun n c =>
    if '0' ≤ c ∧ c ≤ '9' then some (16 * n + (c.toNat - '0'.toNat))
    else if 'a' ≤ c ∧ c ≤ 'f' then some (16 * n + (c.toNat - 'a'.toNat + 10))
    else if 'A' ≤ c ∧ c ≤ 'F' then some (16 * n + (c.toNat - 'A'.toNat + 10))
    else none) 0

def simpleEscape? (c : Char) : Option Nat :=
  if c = '"' ∨ c = '\\' ∨ c = '/' then some c.toNat
  else [('b', 8), ('f', 12), ('n', 10), ('r', 13), ('t', 9)].lookup c

/-- The code units of a string up to its closing quote; `opening` counts the characters left at the
opening one. -/
def stringUnits (opening : Nat) : (cs : List Char) → Reads (List Nat) cs
  | [] => .error ⟨.unterminatedString, opening⟩
  | '"' :: rest => .ok ⟨([], rest), by simp⟩
  | '\\' :: 'u' :: rest =>
    match rest with
    | a :: b :: c :: d :: e :: more =>
      match hexCode? [a, b, c, d] with
      | some n => do
        let ⟨(units, after), shorter⟩ ← stringUnits opening (e :: more)
        return ⟨(n :: units, after), by simp at shorter ⊢; omega⟩
      | none => .error ⟨.codeEscape, rest.length + 1⟩
    | _ => .error ⟨.codeEscape, rest.length + 1⟩
  | ['\\'] => .error ⟨.unterminatedString, opening⟩
  | '\\' :: c :: rest =>
    match simpleEscape? c with
    | some n => do
      let ⟨(units, after), shorter⟩ ← stringUnits opening rest
      return ⟨(n :: units, after), by simp at shorter ⊢; omega⟩
    | none => .error ⟨.unknownEscape, rest.length + 2⟩
  | c :: rest =>
    if c.toNat < 0x20 then .error ⟨.controlCharacter, rest.length + 1⟩
    else do
      let ⟨(units, after), shorter⟩ ← stringUnits opening rest
      return ⟨(c.toNat :: units, after), by simp at shorter ⊢; omega⟩

/-- The characters of code units: a high and a low surrogate make one character, a surrogate that
stands alone is replaced. -/
def joinUnits : List Nat → List Char
  | [] => []
  | [n] => [if 0xd800 ≤ n ∧ n < 0xe000 then '\ufffd' else Char.ofNat n]
  | high :: low :: rest =>
    if 0xd800 ≤ high ∧ high < 0xdc00 ∧ 0xdc00 ≤ low ∧ low < 0xe000 then
      Char.ofNat (0x10000 + (high - 0xd800) * 0x400 + (low - 0xdc00)) :: joinUnits rest
    else
      (if 0xd800 ≤ high ∧ high < 0xe000 then '\ufffd' else Char.ofNat high)
        :: joinUnits (low :: rest)

/-- A string after its opening quote. -/
def readString (cs : List Char) : Reads String cs := do
  let ⟨(units, after), shorter⟩ ← stringUnits (cs.length + 1) cs
  return ⟨(String.ofList (joinUnits units), after), shorter⟩

def digitsValue (digits : List Char) : Nat :=
  digits.foldl (fun n c => 10 * n + (c.toNat - '0'.toNat)) 0

/-- A number cut into its parts. -/
structure NumberParts where
  negative : Bool
  whole : List Char
  fraction : Option (List Char)
  power : Option Int
  rest : List Char

def wholePart (cs : List Char) : List Char × List Char :=
  match cs with
  | '0' :: rest => (['0'], rest)
  | _ => (cs.takeWhile Char.isDigit, cs.dropWhile Char.isDigit)

/-- A point counts only with a digit after it. -/
def fractionPart (cs : List Char) : Option (List Char) × List Char :=
  match cs with
  | '.' :: d :: rest =>
    if d.isDigit then (some (d :: rest.takeWhile Char.isDigit), rest.dropWhile Char.isDigit)
    else (none, cs)
  | _ => (none, cs)

/-- An exponent counts only with a digit in it. -/
def powerPart (cs : List Char) : Option Int × List Char :=
  match cs with
  | e :: rest =>
    if e = 'e' ∨ e = 'E' then
      let (negative, body) := match rest with
        | '-' :: body => (true, body)
        | '+' :: body => (false, body)
        | body => (false, body)
      let digits := body.takeWhile Char.isDigit
      if digits.isEmpty then (none, cs)
      else
        let n : Int := digitsValue digits
        (some (if negative then -n else n), body.dropWhile Char.isDigit)
    else (none, cs)
  | [] => (none, cs)

def numberParts (cs : List Char) : NumberParts :=
  let (negative, body) := match cs with
    | '-' :: body => (true, body)
    | body => (false, body)
  let (whole, afterWhole) := wholePart body
  let (fraction, afterFraction) := fractionPart afterWhole
  let (power, rest) := powerPart afterFraction
  ⟨negative, whole, fraction, power, rest⟩

def NumberParts.value? (l : Limits) (p : NumberParts) : Except Flaw Json :=
  match p.fraction, p.power with
  | none, none =>
    match l.exceeded? p.whole.length with
    | some limit => .error (.integerTooLong limit p.whole.length)
    | none =>
      let n : Int := digitsValue p.whole
      .ok (int (if p.negative then -n else n))
  | fraction, power =>
    let decimals := fraction.getD []
    .ok (float (Double.ofDecimal p.negative (digitsValue (p.whole ++ decimals))
      (power.getD 0 - decimals.length)))

def readNumber (l : Limits) (cs : List Char) : Reads Json cs :=
  let p := numberParts cs
  if p.whole.isEmpty then .error ⟨.expectingValue, cs.length⟩
  else match p.value? l with
    | .error flaw => .error ⟨flaw, cs.length⟩
    | .ok j =>
      if shorter : p.rest.length < cs.length then .ok ⟨(j, p.rest), shorter⟩
      else .error ⟨.expectingValue, cs.length⟩

/-- A constant or a number. -/
def readScalar (l : Limits) : (cs : List Char) → Reads Json cs
  | 'n' :: 'u' :: 'l' :: 'l' :: rest => .ok ⟨(null, rest), by simp; omega⟩
  | 't' :: 'r' :: 'u' :: 'e' :: rest => .ok ⟨(bool true, rest), by simp; omega⟩
  | 'f' :: 'a' :: 'l' :: 's' :: 'e' :: rest => .ok ⟨(bool false, rest), by simp; omega⟩
  | 'N' :: 'a' :: 'N' :: rest => .ok ⟨(float .nan, rest), by simp; omega⟩
  | 'I' :: 'n' :: 'f' :: 'i' :: 'n' :: 'i' :: 't' :: 'y' :: rest =>
    .ok ⟨(float (.infinite false), rest), by simp; omega⟩
  | '-' :: 'I' :: 'n' :: 'f' :: 'i' :: 'n' :: 'i' :: 't' :: 'y' :: rest =>
    .ok ⟨(float (.infinite true), rest), by simp; omega⟩
  | cs => readNumber l cs

mutual

/-- A value, inside which so many arrays and objects may be open. -/
def readValue (l : Limits) (nesting : Nat) : (cs : List Char) → Reads Json cs
  | [] => .error ⟨.expectingValue, 0⟩
  | '"' :: rest => do
    let ⟨(s, after), shorter⟩ ← readString rest
    return ⟨(str s, after), by simp at shorter ⊢; omega⟩
  | '\x7b' :: rest =>
    match nesting with
    | 0 => .error ⟨.nestedTooDeep "object", rest.length + 1⟩
    | inside + 1 =>
      match past? '\x7d' rest with
      | some ⟨after, shorter⟩ => .ok ⟨(obj [], after), by simp; omega⟩
      | none => do
        let ⟨(fields, after), shorter⟩ ← readMembers l inside [] (skip rest)
        return ⟨(obj fields, after), by have := length_skip_le rest; simp at shorter ⊢; omega⟩
  | '[' :: rest =>
    match nesting with
    | 0 => .error ⟨.nestedTooDeep "array", rest.length + 1⟩
    | inside + 1 =>
      match past? ']' rest with
      | some ⟨after, shorter⟩ => .ok ⟨(arr [], after), by simp; omega⟩
      | none => do
        let ⟨(items, after), shorter⟩ ← readElements l inside (skip rest)
        return ⟨(arr items, after), by have := length_skip_le rest; simp at shorter ⊢; omega⟩
  | c :: rest => readScalar l (c :: rest)
termination_by cs => (cs.length, 0)
decreasing_by
  all_goals exact Prod.Lex.left _ _ (by have := length_skip_le rest; simp; omega)

/-- The items of an array from one of them up to the closing bracket. -/
def readElements (l : Limits) (nesting : Nat) (cs : List Char) : Reads (List Json) cs := do
  let ⟨(item, after), shorter⟩ ← readValue l nesting cs
  match past? ']' after with
  | some ⟨rest, closed⟩ => return ⟨([item], rest), by simp at shorter ⊢; omega⟩
  | none =>
    match past? ',' after with
    | some ⟨rest, next⟩ => do
      let ⟨(items, rest'), shorter'⟩ ← readElements l nesting (skip rest)
      return ⟨(item :: items, rest'), by
        have := length_skip_le rest; simp at shorter shorter' ⊢; omega⟩
    | none => .error ⟨.expectingComma, (skip after).length⟩
termination_by (cs.length, 1)
decreasing_by
  · exact Prod.Lex.right _ Nat.zero_lt_one
  · exact Prod.Lex.left _ _ (by have := length_skip_le rest; simp at shorter; omega)

/-- The fields of an object from one of them up to the closing brace, added to `fields`. -/
def readMembers (l : Limits) (nesting : Nat) (fields : List (String × Json)) :
    (cs : List Char) → Reads (List (String × Json)) cs
  | '"' :: rest => do
    let ⟨(name, afterName), shorter⟩ ← readString rest
    match past? ':' afterName with
    | some ⟨afterColon, colon⟩ => do
      let ⟨(v, afterValue), shorter'⟩ ← readValue l nesting (skip afterColon)
      match past? '\x7d' afterValue with
      | some ⟨after, closed⟩ =>
        return ⟨(put fields name v, after), by
          have := length_skip_le afterColon; simp at shorter shorter' ⊢; omega⟩
      | none =>
        match past? ',' afterValue with
        | some ⟨afterComma, comma⟩ => do
          let ⟨(all, after), shorter''⟩ ←
            readMembers l nesting (put fields name v) (skip afterComma)
          return ⟨(all, after), by
            have := length_skip_le afterColon
            have := length_skip_le afterComma
            simp at shorter shorter' shorter'' ⊢; omega⟩
        | none => .error ⟨.expectingComma, (skip afterValue).length⟩
    | none => .error ⟨.expectingColon, (skip afterName).length⟩
  | cs => .error ⟨.expectingName, cs.length⟩
termination_by cs => (cs.length, 1)
decreasing_by
  · exact Prod.Lex.left _ _ (by have := length_skip_le afterColon; simp at shorter ⊢; omega)
  · exact Prod.Lex.left _ _ (by
      have := length_skip_le afterColon
      have := length_skip_le afterComma
      simp at shorter shorter' ⊢; omega)

end

structure ReadError where
  flaw : Flaw
  /-- How many characters stand before the flaw. -/
  position : Nat
  deriving DecidableEq, Repr

def readChars (l : Limits) (cs : List Char) : Except Failure Json :=
  if cs.head? = some '\ufeff' then .error ⟨.byteOrderMark, cs.length⟩
  else do
    let ⟨(j, after), _⟩ ← readValue l l.nesting (skip cs)
    let rest := skip after
    if rest.isEmpty then return j else .error ⟨.extraData, rest.length⟩

/-- Reads a text that holds one value and blanks around it. -/
def read (l : Limits) (text : String) : Except ReadError Json :=
  let cs := text.toList
  match readChars l cs with
  | .ok j => .ok j
  | .error f => .error ⟨f.flaw, cs.length - f.remaining⟩

def Flaw.wording : Flaw → String
  | expectingValue => "Expecting value"
  | expectingName => "Expecting property name enclosed in double quotes"
  | expectingColon => "Expecting ':' delimiter"
  | expectingComma => "Expecting ',' delimiter"
  | extraData => "Extra data"
  | unterminatedString => "Unterminated string starting at"
  | controlCharacter => "Invalid control character at"
  | unknownEscape => "Invalid \\escape"
  | codeEscape => "Invalid \\uXXXX escape"
  | byteOrderMark => "Unexpected UTF-8 BOM (decode using utf-8-sig)"
  | integerTooLong limit digits =>
    "Exceeds the limit (" ++ toString limit
      ++ " digits) for integer string conversion: value has " ++ toString digits
      ++ " digits; use sys.set_int_max_str_digits() to increase the limit"
  | nestedTooDeep container =>
    "maximum recursion depth exceeded while decoding a JSON " ++ container
      ++ " from a unicode string"

/-- The line and the column of a position in a text, both from one. -/
def lineAndColumn (text : String) (position : Nat) : Nat × Nat :=
  let before := text.toList.take position
  (before.count '\n' + 1, (before.reverse.takeWhile (· != '\n')).length + 1)

def ReadError.message (text : String) (e : ReadError) : String :=
  let (line, column) := lineAndColumn text e.position
  e.flaw.wording ++ ": line " ++ toString line ++ " column " ++ toString column
    ++ " (char " ++ toString e.position ++ ")"

end WindowSql.Json
