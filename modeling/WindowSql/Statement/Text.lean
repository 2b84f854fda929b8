import WindowSql.Statement
import WindowSql.Window.Text

/-!
Statements as SQL text: one clause a line, a subquery in parentheses on lines of its own.
-/

namespace WindowSql

namespace Setting

/-- A select item under its name. A promoted one stands in a window. -/
def itemText (s : Setting) (isFilter : Bool) (item : SelectItem) : Except Failure String :=
  (s.text (isFilter || item.promoted) item.expr).map fun text =>
    text ++ " AS " ++ s.dialect.quote item.name

def selectText (s : Setting) (b : Block) : Except Failure String := do
  let items ← b.items.mapM (s.itemText b.isFilter)
  return "SELECT " ++ ", ".intercalate (if b.isExplicit then items else "*" :: items)

/-- A table under its label. -/
def tableText (s : Setting) (b : Block) : Except Failure String :=
  match b.table, b.label with
  | none, _ => .error (.fault .noSource)
  | some table, label =>
    if table.isEmpty then .error (.fault .noSource)
    else match label with
      | none => .ok (s.dialect.reference table)
      | some l =>
        if l.isEmpty then .ok (s.dialect.reference table)
        else .ok (s.dialect.reference table ++ " AS " ++ s.dialect.quote l)

/-- A subquery, already written, under its label; one without a label gets that of the options. -/
def subqueryText (s : Setting) (b : Block) (inner : String) : String :=
  let label := match b.label with
    | none => s.options.subqueryLabel
    | some l => if l.isEmpty then s.options.subqueryLabel else l
  "(\n" ++ inner ++ "\n) AS " ++ s.dialect.quote label

/-- The filter of a block, which may compute no window call. -/
def filterText (s : Setting) (b : Block) : Except Failure (List String) :=
  match b.predicate with
  | none => .ok []
  | some p =>
    if p.containsCall then .error (.fault (.windowInFilter p))
    else (s.text true p).map fun text => ["WHERE " ++ text]

/-- A statement as SQL. -/
def statementText (s : Setting) : Statement → Except Failure String
  | .select b => do
    let select ← s.selectText b
    let source ← s.tableText b
    let filter ← s.filterText b
    return "\n".intercalate (select :: ("FROM " ++ source) :: filter)
  | .derived b inner => do
    let select ← s.selectText b
    let source ← statementText s inner
    let filter ← s.filterText b
    return "\n".intercalate (select :: ("FROM " ++ s.subqueryText b source) :: filter)

end Setting

end WindowSql
