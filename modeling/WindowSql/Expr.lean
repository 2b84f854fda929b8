import WindowSql.Limits
import WindowSql.Number.Shortest
import WindowSql.Text.Quoted

/-!
Expressions of a select list or a predicate, and their one-line descriptions.

A call stands for a window function; its ordering, if it brings one, is part of it. `desc` marks a
descending ordering key and means nothing elsewhere. An expression with an integer that is too long
has no description.
-/

namespace WindowSql

/-- A constant, kept as it was written: the integer 1, the float 1.0 and true are different. -/
inductive Literal where
  | null
  | bool (b : Bool)
  | int (i : Int)
  | float (x : Double)
  | str (s : String)
  deriving DecidableEq, Repr, Inhabited

inductive BinaryOp where
  | eq | ne | lt | le | gt | ge | add | sub | mul | div | and | or
  deriving DecidableEq, Repr, Inhabited

inductive Expr where
  | column (name : String)
  | literal (value : Literal)
  | call (func : String) (args : List Expr) (orderBy : Option (List Expr))
  | binary (op : BinaryOp) (left right : Expr)
  | desc (inner : Expr)
  deriving Repr, Inhabited

/-- A window call on its own. -/
structure Call where
  func : String
  args : List Expr
  orderBy : Option (List Expr)
  deriving Repr, Inhabited

def Call.toExpr (c : Call) : Expr := .call c.func c.args c.orderBy

/-- The ordering keys a call brings, none if it brings no ordering. -/
def Call.keys (c : Call) : List Expr := c.orderBy.getD []

inductive Direction where
  | asc | desc
  deriving DecidableEq, Repr, Inhabited

def Direction.flip : Direction → Direction
  | asc => desc
  | desc => asc

def Direction.name : Direction → String
  | asc => "ASC"
  | desc => "DESC"

/-- An expression to order by, and which way. -/
structure OrderKey where
  expr : Expr
  direction : Direction := .asc
  deriving Repr, Inhabited

namespace BinaryOp

def all : List BinaryOp := [eq, ne, lt, le, gt, ge, add, sub, mul, div, and, or]

/-- How an operator is written in an expression. -/
def name : BinaryOp → String
  | eq => "==" | ne => "!=" | lt => "<" | le => "<=" | gt => ">" | ge => ">="
  | add => "+" | sub => "-" | mul => "*" | div => "/" | and => "&" | or => "|"

def ofName? (s : String) : Option BinaryOp := all.find? (·.name == s)

end BinaryOp

def Literal.describe (l : Limits) : Literal → Except LongInteger String
  | null => .ok "NULL"
  | bool b => .ok (if b then "TRUE" else "FALSE")
  | int i => l.text i
  | float x => .ok x.text
  | str s => .ok (Text.quoted s)

namespace Expr

def isBinary : Expr → Bool
  | binary .. => true
  | _ => false

def isLiteral : Expr → Bool
  | literal _ => true
  | _ => false

/-- The text of an operand: an operation is put in parentheses. -/
def operand (e : Expr) (text : String) : String := if e.isBinary then "(" ++ text ++ ")" else text

/-- A call with its arguments and keys already described. -/
def describeCall (func : String) (args keys : List String) : String :=
  let text := func ++ "(" ++ ", ".intercalate args ++ ")"
  if keys.isEmpty then text else text ++ " [order_by: " ++ ", ".intercalate keys ++ "]"

mutual

def describe (l : Limits) : Expr → Except LongInteger String
  | column name => .ok name
  | literal v => v.describe l
  | call func args none => do
    let args ← describeAll l args
    return describeCall func args []
  | call func args (some keys) => do
    let args ← describeAll l args
    let keys ← describeAll l keys
    return describeCall func args keys
  | binary op a b => do
    let left ← describe l a
    let right ← describe l b
    return operand a left ++ " " ++ op.name ++ " " ++ operand b right
  | desc e => do
    let text ← describe l e
    return "desc(" ++ text ++ ")"

def describeAll (l : Limits) : List Expr → Except LongInteger (List String)
  | [] => .ok []
  | e :: rest => do
    let first ← describe l e
    let others ← describeAll l rest
    return first :: others

end

/-- The expression below a chain of `desc`. -/
def stripDesc : Expr → Expr
  | desc e => stripDesc e
  | e => e

/-- The direction a chain of `desc` stands for: every one turns it round. -/
def chainDirection : Expr → Direction
  | desc e => (chainDirection e).flip
  | _ => .asc

/-- The ordering key that an expression is used as. -/
def orderKey (e : Expr) : OrderKey := ⟨e.stripDesc, e.chainDirection⟩

end Expr

def Call.describe (l : Limits) (c : Call) : Except LongInteger String := c.toExpr.describe l

def OrderKey.describe (l : Limits) (k : OrderKey) : Except LongInteger String :=
  (k.expr.describe l).map fun text =>
    match k.direction with
    | .asc => text
    | .desc => "desc(" ++ text ++ ")"

end WindowSql
