import WindowSql.Json

/-!
Where and how a document fails its schema.

`Decoded` is the result of reading a part of a document. Parts are put together with `Decoded.app`,
which keeps the issues of both sides in order, so that all issues of a document are reported.
-/

namespace WindowSql.Schema

/-- One step into a document. -/
inductive Step where
  | field (name : String)
  | index (i : Nat)
  deriving DecidableEq, Repr

inductive Mismatch where
  | missing
  | unexpected
  | notModel (model : String)
  | untagged
  | notString
  | notTuple
  | notBool
  | unreadableBool
  | notInteger
  | fractionalInteger
  | unreadableInteger
  | infiniteInteger
  | hugeInteger
  | notNumber
  | notLiteral (choices : List String)
  | notMember (choices : List String)
  deriving DecidableEq, Repr

structure Issue where
  path : List Step
  mismatch : Mismatch
  deriving DecidableEq, Repr

/-- Texts in single quotes, the last one after "or". -/
def alternatives (choices : List String) : String :=
  let quoted := choices.map fun c => "'" ++ c ++ "'"
  match quoted.getLast? with
  | none => ""
  | some last =>
    if quoted.length = 1 then last
    else ", ".intercalate quoted.dropLast ++ " or " ++ last

namespace Mismatch

def kind : Mismatch → String
  | missing => "missing"
  | unexpected => "extra_forbidden"
  | notModel _ => "model_type"
  | untagged => "union_tag_not_found"
  | notString => "string_type"
  | notTuple => "tuple_type"
  | notBool => "bool_type"
  | unreadableBool => "bool_parsing"
  | notInteger => "int_type"
  | fractionalInteger => "int_from_float"
  | unreadableInteger => "int_parsing"
  | infiniteInteger => "finite_number"
  | hugeInteger => "int_parsing_size"
  | notNumber => "float_type"
  | notLiteral _ => "literal_error"
  | notMember _ => "enum"

def message : Mismatch → String
  | missing => "Field required"
  | unexpected => "Extra inputs are not permitted"
  | notModel model => "Input should be a valid dictionary or instance of " ++ model
  | untagged => "Unable to extract tag using discriminator _expr_discriminator()"
  | notString => "Input should be a valid string"
  | notTuple => "Input should be a valid tuple"
  | notBool => "Input should be a valid boolean"
  | unreadableBool => "Input should be a valid boolean, unable to interpret input"
  | notInteger => "Input should be a valid integer"
  | fractionalInteger => "Input should be a valid integer, got a number with a fractional part"
  | unreadableInteger => "Input should be a valid integer, unable to parse string as an integer"
  | infiniteInteger => "Input should be a finite number"
  | hugeInteger => "Unable to parse input string as an integer, exceeded maximum size"
  | notNumber => "Input should be a valid number"
  | notLiteral choices | notMember choices => "Input should be " ++ alternatives choices

end Mismatch

/-- A document that does not fit the schema of a model. -/
structure Fault where
  model : String
  issues : List Issue
  deriving DecidableEq, Repr

def Fault.message (f : Fault) : String :=
  let count := f.issues.length
  toString count ++ " validation error" ++ (if count = 1 then "" else "s") ++ " for " ++ f.model

abbrev Decoded (α : Type) := Except (List Issue) α

namespace Decoded

def fail {α : Type} (m : Mismatch) : Decoded α := .error [⟨[], m⟩]

/-- The issues of a part, seen from the whole. -/
def within {α : Type} (s : Step) : Decoded α → Decoded α
  | .ok a => .ok a
  | .error issues => .error (issues.map fun i => { i with path := s :: i.path })

/-- Gives a constructor its next part; the issues of both are kept. -/
def app {α β : Type} : Decoded (α → β) → Decoded α → Decoded β
  | .ok f, .ok a => .ok (f a)
  | .ok _, .error issues => .error issues
  | .error issues, .ok _ => .error issues
  | .error issues, .error more => .error (issues ++ more)

/-- The value, if nothing else is wrong. -/
def andThen {α : Type} : Decoded α → Decoded Unit → Decoded α
  | .ok a, .ok _ => .ok a
  | .ok _, .error issues => .error issues
  | .error issues, .ok _ => .error issues
  | .error issues, .error more => .error (issues ++ more)

/-- Reads every item, under its index counted from `start`. -/
def items {α : Type} (decode : Json → Decoded α) (start : Nat) : List Json → Decoded (List α)
  | [] => .ok []
  | j :: rest =>
    app (app (.ok List.cons) (within (.index start) (decode j))) (items decode (start + 1) rest)

/-- Names the model that a document was read as. -/
def named {α : Type} (model : String) : Decoded α → Except Fault α
  | .ok a => .ok a
  | .error issues => .error ⟨model, issues⟩

end Decoded

/-- The fields of an object that the model does not know are issues. -/
def onlyFields (known : List String) (fields : List (String × Json)) : Decoded Unit :=
  let extra := (fields.map (·.1)).filter (!known.contains ·)
  if extra.isEmpty then .ok () else .error (extra.map fun name => ⟨[.field name], .unexpected⟩)

/-- A field that has to be there. -/
def required {α : Type} (fields : List (String × Json)) (name : String)
    (decode : Json → Decoded α) : Decoded α :=
  Decoded.within (.field name) (match fields.lookup name with
    | some j => decode j
    | none => .fail .missing)

/-- A field that may be left out. -/
def optional {α : Type} (fields : List (String × Json)) (name : String) (default : α)
    (decode : Json → Decoded α) : Decoded α :=
  match fields.lookup name with
  | some j => Decoded.within (.field name) (decode j)
  | none => .ok default

/-- What is reported for a field that is not there. -/
def missing {α : Type} (name : String) : Decoded α := Decoded.within (.field name) (.fail .missing)

def nullable {α : Type} (decode : Json → Decoded α) : Json → Decoded (Option α)
  | .null => .ok none
  | j => (decode j).map some

def tupleOf {α : Type} (decode : Json → Decoded α) : Json → Decoded (List α)
  | .arr js => Decoded.items decode 0 js
  | _ => .fail .notTuple

end WindowSql.Schema
