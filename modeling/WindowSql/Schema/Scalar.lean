import WindowSql.Schema.IntegerText

/-!
Reading scalars: texts, truth values and integers.

A text is only read from a text. A truth value is also read from 0 and 1 and from a few words; an
integer also from a truth value, an integral number and a text that holds an integer.
-/

namespace WindowSql.Schema

def text : Json → Decoded String
  | .str s => .ok s
  | _ => .fail .notString

/-- The truth value a word stands for; the case of ASCII letters does not count. -/
def truthWord? (s : String) : Option Bool :=
  let word := String.ofList (s.toList.map Char.toLower)
  if ["0", "off", "f", "false", "n", "no"].contains word then some false
  else if ["1", "on", "t", "true", "y", "yes"].contains word then some true
  else none

/-- Two to the 63: the first integer that does not fit into 64 bits. -/
def int64End : Nat := 9223372036854775808

/-- The truth value an integer stands for; one that does not fit is no truth value of any kind. -/
def truthOfInt (fits : Bool) (i : Int) : Decoded Bool :=
  if i = 0 then .ok false
  else if i = 1 then .ok true
  else .fail (if fits then .unreadableBool else .notBool)

def truth : Json → Decoded Bool
  | .bool b => .ok b
  | .int i => truthOfInt (-int64End ≤ i && i < int64End) i
  | .float x =>
    match x.toInt? with
    | some i => truthOfInt (i.natAbs < int64End) i
    | none => .fail .notBool
  | .str s =>
    match truthWord? s with
    | some b => .ok b
    | none => .fail .unreadableBool
  | _ => .fail .notBool

def integer : Json → Decoded Int
  | .int i => .ok i
  | .bool b => .ok (if b then 1 else 0)
  | .float x =>
    match x with
    | .finite .. =>
      match x.toInt? with
      | some i => if i.natAbs < int64End then .ok i else .fail .hugeInteger
      | none => .fail .fractionalInteger
    | _ => .fail .infiniteInteger
  | .str s => integerInText s
  | _ => .fail .notInteger

/-- One of a few words. -/
def oneOf {α : Type} (ofName? : String → Option α) (refusal : Mismatch) : Json → Decoded α
  | .str s =>
    match ofName? s with
    | some a => .ok a
    | none => .fail refusal
  | _ => .fail refusal

end WindowSql.Schema
