import WindowSql.Expr.Calls
import WindowSql.Expr.Same

/-!
Statements: a select list over a table or over a derived table, with an optional filter.

A statement is a tower of query blocks. `Statement.select` reads from a table, `Statement.derived`
from the statement inside it. A select item is promoted when it computes a window call for the block
around it.
-/

namespace WindowSql

structure SelectItem where
  /-- The name the item is selected under. -/
  name : String
  expr : Expr
  promoted : Bool := false
  deriving Repr, Inhabited

/-- One `SELECT … FROM … WHERE …`, without the derived table it may read from. -/
structure Block where
  items : List SelectItem := []
  /-- Keep every column of the source ahead of the items. -/
  selectAll : Bool := false
  table : Option String := none
  /-- The name given to the source. -/
  label : Option String := none
  predicate : Option Expr := none
  /-- The statement is a filter: its plain aggregates are computed over their partition. -/
  isFilter : Bool := false
  deriving Repr, Inhabited

inductive Statement where
  | select (block : Block)
  | derived (block : Block) (inner : Statement)
  deriving Repr, Inhabited

namespace Block

/-- The expressions of the select list, then the predicate. -/
def exprs (b : Block) : List Expr := b.items.map (·.expr) ++ b.predicate.toList

/-- The names the block selects. -/
def names (b : Block) : List String := b.items.map (·.name)

/-- Every name the block selects or refers to. -/
def usedNames (b : Block) : List String := b.names ++ b.exprs.flatMap (·.columns)

/-- Whether the block lists exactly the columns it produces. -/
def isExplicit (b : Block) : Bool := !b.selectAll && !b.items.isEmpty

/-- The names that may qualify a column of the source: its label, its table, and the last part of
the table's name. -/
def qualifiers (b : Block) : List String :=
  (match b.label with
    | some l => if l.isEmpty then [] else [l]
    | none => [])
  ++ (match b.table with
    | some t => if t.isEmpty then [] else [t, (Text.qualified t).column]
    | none => [])

/-- The predicate has a window call, which no filter can compute in place. -/
def filtersOnWindow (b : Block) : Bool :=
  match b.predicate with
  | some p => p.containsCall
  | none => false

end Block

namespace Statement

def block : Statement → Block
  | select b => b
  | derived b _ => b

/-- The statement with another block around the same source. -/
def withBlock (b : Block) : Statement → Statement
  | select _ => select b
  | derived _ s => derived b s

/-- Whether the block directly inside has a promoted item. -/
def readsPromoted : Statement → Bool
  | select _ => false
  | derived _ s => s.block.items.any (·.promoted)

/-- The window calls that were promoted, by the name they are selected under. A name that comes
twice keeps its first place and its last call. -/
def promoted : Statement → List (String × Call)
  | select _ => []
  | derived _ s => s.block.items.foldl (fun pairs item =>
      match item.promoted, item.expr with
      | true, .call func args orderBy =>
        upsertBy (· == ·) item.name (fun _ => ⟨func, args, orderBy⟩) pairs
      | _, _ => pairs) []

/-- The names a statement adds to the columns of its tables: those it selects, and those below it
that it passes on. -/
def exposedNames : Statement → List String
  | select b => b.names
  | derived b s => if b.isExplicit then b.names else b.names ++ exposedNames s

/-- The names that the source of a statement adds. -/
def sourceNames : Statement → List String
  | select _ => []
  | derived _ s => s.exposedNames

/-- How many derived tables a statement is put over. -/
def depth : Statement → Nat
  | select _ => 0
  | derived _ s => s.depth + 1

end Statement

end WindowSql
