import WindowSql.Setting
import WindowSql.Statement

/-!
The rules a statement has to follow before it is compiled.

It reads from a table or a subquery; it selects no name twice; `desc` marks the first argument of a
ranking function or an ordering key; a call is known, has the arguments it takes, and holds no other
call. The rules hold for the subquery first. `checkOuter` states what a block over promoted columns
may refer to.
-/

namespace WindowSql

/-- The first text that occurred before. -/
def firstRepeat? (seen : List String) : List String → Option String
  | [] => none
  | s :: rest => if s ∈ seen then some s else firstRepeat? (s :: seen) rest

namespace Expr

mutual

/-- Every `desc` orders something; `isKey` says that the expression itself is an ordering key. -/
def checkDesc (c : Catalog) (place : Place) (isKey : Bool) : Expr → Except Fault Unit
  | desc e => if isKey then checkDesc c place true e else .error (.misplacedDesc place (.desc e))
  | binary _ l r => do
    checkDesc c place false l
    checkDesc c place false r
  | call func args none => do
    let f ← c.get func
    checkDescs c place (f.category == .ranking) false args
  | call func args (some keys) => do
    let f ← c.get func
    checkDescs c place (f.category == .ranking) false args
    checkDescs c place true true keys
  | _ => .ok ()

/-- The same for a list, where the first expression may be a key, or the others. -/
def checkDescs (c : Catalog) (place : Place) (firstIsKey othersAreKeys : Bool) :
    List Expr → Except Fault Unit
  | [] => .ok ()
  | e :: rest => do
    checkDesc c place firstIsKey e
    checkDescs c place othersAreKeys othersAreKeys rest

end

/-- An integer from `least` on. -/
def isIntegerFrom (least : Int) : Expr → Bool
  | literal (.int i) => least ≤ i
  | _ => false

end Expr

namespace Call

def checkNested (c : Call) : Except Fault Unit :=
  match c.nested? with
  | some nested => .error (.nestedCall c nested)
  | none => .ok ()

/-- The argument at a position, which counts from the end if it is negative, and its index. -/
def argumentAt? (c : Call) (position : Int) : Option (Nat × Expr) :=
  let index := if 0 ≤ position then position else c.args.length + position
  if 0 ≤ index then c.args[index.toNat]?.map fun e => (index.toNat, e) else none

/-- A rule for an argument that has to be an integer; an argument that is not there follows it. -/
def checkInteger (c : Call) (rule : Int × Int) : Except Fault Unit :=
  match c.argumentAt? rule.1 with
  | none => .ok ()
  | some (i, e) =>
    if e.isIntegerFrom rule.2 then .ok () else .error (.integerArgument c i rule.2 e)

/-- The arguments are those the function takes. -/
def checkArgs (c : Call) (f : WindowFunction) : Except Fault Unit := do
  if f.minArgs ≤ c.args.length ∧ c.args.length ≤ f.maxArgs then
    f.integerArgs.forM c.checkInteger
  else throw (.argumentCount c f.minArgs f.maxArgs)

def check (catalog : Catalog) (c : Call) : Except Fault Unit := do
  c.checkNested
  let f ← catalog.get c.func
  c.checkArgs f

end Call

def Expr.check (c : Catalog) (place : Place) (e : Expr) : Except Fault Unit := do
  e.checkDesc c place false
  e.calls.forM (·.check c)

namespace Block

/-- A table is named by more than blanks. -/
def checkTable (b : Block) : Except Fault Unit :=
  match b.table with
  | none => .error .sourceCount
  | some name => if name.toList.all Text.isBlank then .error .blankTable else .ok ()

/-- A block over a subquery names no table. -/
def checkNoTable (b : Block) : Except Fault Unit :=
  if b.table.isSome then .error .sourceCount else .ok ()

/-- The rules for a block, apart from its source. -/
def check (c : Catalog) (b : Block) : Except Fault Unit := do
  match firstRepeat? [] b.names with
  | some name => throw (.repeatedName name)
  | none => pure ()
  b.items.forM fun item => item.expr.check c .selectList
  b.predicate.toList.forM (·.check c .predicate)

end Block

namespace Statement

def check (c : Catalog) : Statement → Except Fault Unit
  | select b => do
    b.checkTable
    b.check c
  | derived b inner => do
    b.checkNoTable
    check c inner
    b.check c

/-- A column of a block over a statement: it is qualified by the label of the block or by nothing,
and where the statement lists its columns it is one of them. -/
def checkColumn (b inner : Block) (name : String) : Except Fault Unit :=
  let q := Text.qualified name
  if q.qualifier ≠ "" ∧ some q.qualifier ≠ b.label then
    .error (.hiddenQualifier name q.qualifier b.label)
  else if inner.isExplicit ∧ q.column ∉ inner.names then
    .error (.absentColumn name (inner.names.eraseDups.mergeSort fun a b => decide (a ≤ b)))
  else .ok ()

/-- A block over promoted columns has no call left and refers to columns of the block inside. -/
def checkOuter (s : Statement) : Except Fault Unit := do
  s.block.exprs.forM fun e => if e.containsCall then throw (.callLeft e) else pure ()
  match s with
  | select _ => pure ()
  | derived b inner => b.exprs.forM fun e => e.columns.forM (checkColumn b inner.block)

end Statement

end WindowSql
