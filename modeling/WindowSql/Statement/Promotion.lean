import WindowSql.Statement.Check
import WindowSql.Window.Text

/-!
Moving a filter on window calls over a subquery.

No filter can compute a window call in place. A block that filters on one is split in two: the inner
block computes every distinct call of the block as a column of a fresh name, the outer block refers
to these columns. The outer block reads from the inner one alone, so columns that were qualified by
the source lose their qualifier. A subquery is split before the block over it, and a statement over
promoted columns is left as it is.
-/

namespace WindowSql

namespace Block

/-- The outermost calls of a block in order, and whether each stands in a filter. -/
def windowCalls (b : Block) : List (Call × Bool) :=
  b.items.flatMap (fun item => item.expr.calls.map (·, b.isFilter))
    ++ b.predicate.toList.flatMap (fun p => p.calls.map (·, true))

/-- The distinct calls in the order of their first occurrence; one that stands in a filter anywhere
is in a window. -/
def distinctCalls (b : Block) : List (Call × Bool) :=
  b.windowCalls.foldl (fun pairs (c, inFilter) =>
    upsertBy Call.same c (fun old => old.getD false || inFilter) pairs) []

/-- The inner block: all of the source, and the calls under their names. -/
def promotedInner (b : Block) (names : List (Call × String)) : Block where
  items := names.map fun (c, name) => ⟨name, c.toExpr, true⟩
  selectAll := true
  table := b.table
  label := b.label

/-- An expression over the inner block. -/
def overPromoted (b : Block) (names : List (Call × String)) (e : Expr) : Expr :=
  (e.replaceCalls (lookupBy Call.same names)).unqualify b.qualifiers

/-- The outer block. -/
def promotedOuter (b : Block) (names : List (Call × String)) (label : String) : Block where
  items := b.items.map fun item => { item with expr := b.overPromoted names item.expr }
  selectAll := b.selectAll
  label := some label
  predicate := b.predicate.map (b.overPromoted names)
  isFilter := b.isFilter

end Block

/-- Windows that stand side by side share one partition. -/
def checkPartitions (partitions : List (List String)) : Except Fault Unit :=
  let distinct := partitions.eraseDups
  if 1 < distinct.length then .error (.severalPartitions distinct) else .ok ()

namespace Setting

/-- Fresh names for calls, by the stems of their functions. -/
def nameCalls (s : Setting) : NameSupply → List Call → Except Failure (List (Call × String))
  | _, [] => .ok []
  | supply, c :: rest => do
    let f ← Fault.lift (s.catalog.get c.func)
    let (name, supply) ← (supply.next s.options s.objects f.stem).mapError .naming
    let names ← nameCalls s supply rest
    return (c, name) :: names

/-- Calls under their names, as they are reported. -/
def describeNames (l : Limits) (names : List (Call × String)) :
    Except LongInteger (List String) :=
  names.mapM fun (c, name) => (c.describe l).map fun text => name ++ "=" ++ text

/-- The names of the promoted calls of a statement, where all of them can be promoted and
reported. -/
def promotedNames (s : Setting) (stmt : Statement) : Except Failure (List (Call × String)) := do
  Fault.lift (stmt.block.windowCalls.forM fun (c, _) => c.checkNested)
  let calls := stmt.block.distinctCalls
  let names ← s.nameCalls ⟨stmt.block.usedNames ++ stmt.sourceNames, []⟩ (calls.map (·.1))
  let columns ← calls.mapM fun (c, inFilter) => s.windowColumn inFilter c
  Fault.lift (checkPartitions (columns.map (·.window.partitionBy)))
  let _ ← LongInteger.lift (describeNames s.limits names)
  return names

/-- Splits the outermost block of a statement. -/
def split (s : Setting) (stmt : Statement) : Except Failure Statement :=
  (s.promotedNames stmt).map fun names =>
    .derived (stmt.block.promotedOuter names s.options.subqueryLabel)
      (stmt.withBlock (stmt.block.promotedInner names))

/-- The statement with every filter on a window call moved over a subquery; nothing if there is
nothing to move. -/
def promote? (s : Setting) : Statement → Except Failure (Option Statement)
  | .select b =>
    if b.filtersOnWindow then (s.split (.select b)).map some else .ok none
  | .derived b inner =>
    if (Statement.derived b inner).readsPromoted then .ok none
    else do
      let moved ← promote? s inner
      if b.filtersOnWindow then (s.split (.derived b (moved.getD inner))).map some
      else return moved.map (.derived b)

end Setting

end WindowSql
