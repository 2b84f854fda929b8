import WindowSql.Schema.Issue
import WindowSql.Text.Blank

/-!
Integers in a text.

White space may stand around an integer, a sign and zeros in front of it, a point with zeros behind
it, and single underscores inside it. `clean?` takes all of this off but a minus; what is left has
to be an integer of at most `digitLimit` digits, which `ofDigits?` reads. Only a text that begins
with too many digits as it stands is refused for its length.
-/

namespace WindowSql.Schema.IntegerText

/-- The most digits an integer has. -/
def digitLimit : Nat := 4300

/-- Where the zeros in front of an integer end. -/
def beginsInteger (c : Char) : Bool := c == '-' || (c.isDigit && c != '0')

/-- What is left of a text behind `last` and the zeros and underscores that follow it. The last of
them stays where nothing, or a point, comes next. -/
def afterZeros (last : Char) : List Char → Option (List Char)
  | [] => some [last]
  | c :: rest =>
    if c = '0' ∨ c = '_' then afterZeros c rest
    else if c = '.' then some (last :: c :: rest)
    else if beginsInteger c then some (c :: rest)
    else none

/-- An integer without the zeros in front of it. -/
def dropZeros? : List Char → Option (List Char)
  | [] => none
  | c :: rest =>
    if c = '0' then afterZeros c rest
    else if beginsInteger c then some (c :: rest)
    else none

/-- An integer without a point and the zeros behind it, of which there has to be one. -/
def dropFraction (cs : List Char) : List Char :=
  let zeros := (cs.dropWhile (· != '.')).drop 1
  if !zeros.isEmpty && zeros.all (· == '0') then cs.takeWhile (· != '.') else cs

/-- Whether no two underscores stand together. -/
def underscoresApart : List Char → Bool
  | '_' :: '_' :: _ => false
  | _ :: rest => underscoresApart rest
  | [] => true

/-- An integer without its underscores, if each stands alone and none at an end. -/
def dropUnderscores (cs : List Char) : List Char :=
  if cs.head? != some '_' && cs.getLast? != some '_' && underscoresApart cs then
    cs.filter (· != '_')
  else cs

/-- The minus in front of an integer, and the rest. -/
def takeMinus : List Char → Bool × List Char
  | '-' :: rest => (true, rest)
  | cs => (false, cs)

/-- What a text leaves for an integer, behind at most one minus; a plus is not followed by a
minus. -/
def clean? (cs : List Char) : Option (List Char) :=
  match Text.trimWhile Text.isWhiteSpace cs with
  | '+' :: '-' :: _ => none
  | '+' :: rest => (dropZeros? rest).map fun cs => dropUnderscores (dropFraction cs)
  | '-' :: rest => (dropZeros? rest).map fun cs => dropUnderscores (dropFraction ('-' :: cs))
  | cs => (dropZeros? cs).map fun cs => dropUnderscores (dropFraction cs)

/-- The digits a text begins with, behind at most one minus. -/
def leadingDigits (cs : List Char) : List Char := (takeMinus cs).2.takeWhile Char.isDigit

/-- Whether a text begins with more digits than an integer has; none of them is a zero in front. -/
def isTooLong (cs : List Char) : Bool :=
  let digits := leadingDigits cs
  digits.head? != some '0' && digitLimit < digits.length

/-- The integer that digits behind a minus, or behind none, write. No zero stands in front. -/
def ofDigits? (cs : List Char) : Option Int :=
  let (negative, body) := takeMinus cs
  if body.isEmpty || !body.all Char.isDigit || digitLimit < body.length
      || (body.head? == some '0' && 1 < body.length) then none
  else
    let n : Int := body.foldl (fun n c => 10 * n + (c.toNat - '0'.toNat)) 0
    some (if negative then -n else n)

end IntegerText

/-- The integer in a text. -/
def integerInText (s : String) : Decoded Int :=
  if IntegerText.isTooLong s.toList then .fail .hugeInteger
  else match (IntegerText.clean? s.toList).bind IntegerText.ofDigits? with
    | some i => .ok i
    | none => .fail .unreadableInteger

end WindowSql.Schema
