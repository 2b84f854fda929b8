import WindowSql.Text.Printable

/-!
Texts in quotes, as descriptions and messages show them.

A text stands in single quotes, or in double quotes when it holds a single quote and no double one.
The quote that is used and the backslash get a backslash; a character that is not printable is
written by its code.
-/

namespace WindowSql.Text

def quoteFor (cs : List Char) : Char :=
  if cs.contains '\'' && !cs.contains '"' then '"' else '\''

/-- A number in hexadecimal, with zeros in front up to a width. -/
def hex (width n : Nat) : List Char :=
  let digits := Nat.toDigits 16 n
  List.replicate (width - digits.length) '0' ++ digits

def codeEscape (c : Char) : List Char :=
  let n := c.toNat
  if n < 0x100 then '\\' :: 'x' :: hex 2 n
  else if n < 0x10000 then '\\' :: 'u' :: hex 4 n
  else '\\' :: 'U' :: hex 8 n

/-- One character inside quotes, where `shown` says which characters stand for themselves. -/
def escape (shown : Char → Bool) (quote c : Char) : List Char :=
  if c = quote ∨ c = '\\' then ['\\', c]
  else if c = '\n' then ['\\', 'n']
  else if c = '\r' then ['\\', 'r']
  else if c = '\t' then ['\\', 't']
  else if shown c then [c]
  else codeEscape c

def quotedWith (shown : Char → Bool) (s : String) : String :=
  let cs := s.toList
  let quote := quoteFor cs
  String.ofList (quote :: cs.flatMap (escape shown quote) ++ [quote])

def quoted (s : String) : String := quotedWith isPrintable s

/-- The quoted form in which every character outside ASCII is written by its code. -/
def quotedAscii (s : String) : String := quotedWith (fun c => isPrintable c && c.toNat < 0x80) s

/-- A list of texts, already quoted, between brackets. -/
def bracketed (items : List String) : String := "[" ++ ", ".intercalate items ++ "]"

def quotedList (items : List String) : String := bracketed (items.map quoted)

end WindowSql.Text
