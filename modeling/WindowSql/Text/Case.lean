import WindowSql.Text.CaseTable
import WindowSql.Text.Printable

/-!
Lower and upper case of a text, by the full Unicode mappings: one character may become several, and
a capital sigma that ends a word becomes the final small sigma.
-/

namespace WindowSql.Text

/-- The first image that a run gives a code point. -/
def shiftBy (runs : List CaseRun) (n : Nat) : Nat := (runs.findSome? (·.image? n)).getD n

def lowerChar (c : Char) : List Char :=
  let n := c.toNat
  if n < 0x80 then [c.toLower]
  else if n = 0x130 then ['i', '\u0307']
  else [Char.ofNat (shiftBy lowerRuns n)]

def upperChar (c : Char) : List Char :=
  let n := c.toNat
  if n < 0x80 then [c.toUpper]
  else match upperExpansions.lookup n with
    | some codes => codes.map Char.ofNat
    | none => [Char.ofNat (shiftBy upperRuns n)]

def isCaseIgnorable (c : Char) : Bool := inRanges caseIgnorableRanges c.toNat

def isCased (c : Char) : Bool := inRanges casedRanges c.toNat

/-- Whether the nearest character that is not case-ignorable is cased. -/
def startsCased (cs : List Char) : Bool :=
  match cs.find? (!isCaseIgnorable ·) with
  | some c => isCased c
  | none => false

/-- Lower case from a place in a text; `before` holds what precedes it, nearest first. -/
def lowerFrom (before : List Char) : List Char → List Char
  | [] => []
  | c :: rest =>
    let image :=
      if c = 'Σ' then [if startsCased before && !startsCased rest then 'ς' else 'σ']
      else lowerChar c
    image ++ lowerFrom (c :: before) rest

def lower (s : String) : String := String.ofList (lowerFrom [] s.toList)

def upper (s : String) : String := String.ofList (s.toList.flatMap upperChar)

end WindowSql.Text
