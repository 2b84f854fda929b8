import WindowSql.Schema.Expr
import WindowSql.Statement

/-!
Statements as documents.

The source of a statement is the name of a table, or an object with a table or a subquery. It is
read from the field `from`, or from `from_` where there is no `from`.
-/

namespace WindowSql.Schema

def selectItem : Json → Decoded SelectItem
  | .obj fields =>
    Decoded.app (.ok SelectItem.mk) (required fields "alias" text)
      |>.app (required fields "expr" expr)
      |>.app (optional fields "promoted" false truth)
      |>.andThen (onlyFields ["alias", "expr", "promoted"] fields)
  | _ => .fail (.notModel "SelectItem")

/-- What a statement reads from. -/
structure Source where
  table : Option String
  inner : Option Statement
  label : Option String

/-- A statement from its parts in the order of the document. -/
def assemble (items : List SelectItem) (selectAll : Bool) (source : Source)
    (predicate : Option Expr) (isFilter : Bool) : Statement :=
  let block : Block := ⟨items, selectAll, source.table, source.label, predicate, isFilter⟩
  match source.inner with
  | none => .select block
  | some s => .derived block s

/-- The name of the schema of a statement. -/
def statementModel : String := "Statement"

/-- The field that holds the source, and the other fields a statement has. -/
def statementFields (fields : List (String × Json)) : String × List String :=
  let name := if fields.any (·.1 == "from") || !fields.any (·.1 == "from_") then "from" else "from_"
  (name, ["select_list", "select_all", name, "predicate", "is_filter"])

mutual

def statement : Json → Decoded Statement
  | .obj fields =>
    let (name, known) := statementFields fields
    Decoded.app (.ok assemble) (optional fields "select_list" [] (tupleOf selectItem))
      |>.app (optional fields "select_all" false truth)
      |>.app ((sourceAt name fields).getD (missing name))
      |>.app (optional fields "predicate" none (nullable expr))
      |>.app (optional fields "is_filter" false truth)
      |>.andThen (onlyFields known fields)
  | _ => .fail (.notModel statementModel)

def source : Json → Decoded Source
  | .str table => .ok ⟨some table, none, none⟩
  | .obj fields =>
    Decoded.app (.ok Source.mk) (optional fields "table" none (nullable text))
      |>.app ((innerAt fields).getD (.ok none))
      |>.app (optional fields "alias" none (nullable text))
      |>.andThen (onlyFields ["table", "subquery", "alias"] fields)
  | _ => .fail (.notModel "Relation")

/-- The source in a field. -/
def sourceAt (name : String) : List (String × Json) → Option (Decoded Source)
  | [] => none
  | (n, j) :: rest =>
    if n = name then some (Decoded.within (.field name) (source j)) else sourceAt name rest

/-- The statement in the field `subquery`, which may be null. -/
def innerAt : List (String × Json) → Option (Decoded (Option Statement))
  | [] => none
  | (n, j) :: rest =>
    if n = "subquery" then
      some (Decoded.within (.field "subquery") (match j with
        | .null => .ok none
        | .obj fields => (statement (.obj fields)).map some
        | _ => .fail (.notModel statementModel)))
    else innerAt rest

end

def encodeItem (item : SelectItem) : Json :=
  .obj [("alias", .str item.name), ("expr", encodeExpr item.expr),
    ("promoted", .bool item.promoted)]

/-- A source with its derived table already written. -/
def encodeSource (b : Block) (inner : Json) : Json :=
  .obj [("table", Json.ofOption .str b.table), ("subquery", inner),
    ("alias", Json.ofOption .str b.label)]

/-- A statement with its source already written. -/
def encodeBlock (b : Block) (source : Json) : Json :=
  .obj [("select_list", .arr (b.items.map encodeItem)), ("select_all", .bool b.selectAll),
    ("from", source), ("predicate", Json.ofOption encodeExpr b.predicate),
    ("is_filter", .bool b.isFilter)]

def encodeStatement : Statement → Json
  | .select b => encodeBlock b (encodeSource b .null)
  | .derived b s => encodeBlock b (encodeSource b (encodeStatement s))

end WindowSql.Schema
