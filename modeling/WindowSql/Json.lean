import WindowSql.Limits
import WindowSql.Number.Shortest
import WindowSql.Text.Quoted

/-!
Data values: the documents that statements, contexts and profiles are read from.

Integers and floating numbers are different values. The fields of an object keep their order and
each name occurs once; `Json.put` keeps that.
-/

namespace WindowSql

inductive Json where
  | null
  | bool (b : Bool)
  | int (i : Int)
  | float (x : Double)
  | str (s : String)
  | arr (items : List Json)
  | obj (fields : List (String × Json))
  deriving Repr, Inhabited

namespace Json

/-- Adds a field; a name that is there already keeps its place and gets the new value. -/
def put (fields : List (String × Json)) (name : String) (value : Json) : List (String × Json) :=
  match fields with
  | [] => [(name, value)]
  | (n, v) :: rest => if n = name then (n, value) :: rest else (n, v) :: put rest name value

/-- The field of an object, nothing for any other value. -/
def field? (j : Json) (name : String) : Option Json :=
  match j with
  | obj fields => fields.lookup name
  | _ => none

def ofOption {α : Type} (encode : α → Json) : Option α → Json
  | none => null
  | some a => encode a

def ofStrings (items : List String) : Json := arr (items.map str)

mutual

/-- A value as messages show it. -/
def display (l : Limits) : Json → Except LongInteger String
  | null => .ok "None"
  | bool true => .ok "True"
  | bool false => .ok "False"
  | int i => l.text i
  | float x => .ok x.text
  | str s => .ok (Text.quoted s)
  | arr items => do
    let texts ← displayItems l items
    return Text.bracketed texts
  | obj fields => do
    let texts ← displayFields l fields
    return "\x7b" ++ ", ".intercalate texts ++ "\x7d"

def displayItems (l : Limits) : List Json → Except LongInteger (List String)
  | [] => .ok []
  | j :: rest => do
    let first ← display l j
    let others ← displayItems l rest
    return first :: others

def displayFields (l : Limits) : List (String × Json) → Except LongInteger (List String)
  | [] => .ok []
  | (name, j) :: rest => do
    let value ← display l j
    let others ← displayFields l rest
    return (Text.quoted name ++ ": " ++ value) :: others

end

end Json

end WindowSql
