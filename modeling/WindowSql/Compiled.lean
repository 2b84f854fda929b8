import WindowSql.Statement.Promotion
import WindowSql.Statement.Text

/-!
Compiling a statement: the context is reported, the statement is checked, its filters on window
calls are moved over subqueries, what came of that is checked, and the result is written as SQL.
-/

namespace WindowSql

structure Compiled where
  sql : String
  dialect : String
  /-- The statement that the text was written from. -/
  statement : Statement
  /-- Whether this is another statement than the one that was given. -/
  changed : Bool
  deriving Repr

namespace Compiled

/-- The window calls computed in a subquery, by the names of their columns. -/
def promoted (c : Compiled) : List (String × Call) := c.statement.promoted

def readsPromoted (c : Compiled) : Bool := c.statement.readsPromoted

end Compiled

namespace Setting

/-- The statement to write, and whether it is another one. -/
def prepare (s : Setting) (stmt : Statement) : Except Failure (Statement × Bool) := do
  Fault.lift (stmt.check s.catalog)
  match ← s.promote? stmt with
  | none => return (stmt, false)
  | some moved =>
    Fault.lift moved.checkOuter
    return (moved, true)

def compile (s : Setting) (stmt : Statement) : Except Failure Compiled := do
  -- the ordering is reported before anything else is looked at
  let _ ← LongInteger.lift (s.context.describeOrder s.limits)
  let (prepared, changed) ← s.prepare stmt
  let sql ← s.statementText prepared
  return ⟨sql, s.dialect.name, prepared, changed⟩

end Setting

end WindowSql
