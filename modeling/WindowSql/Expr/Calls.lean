import WindowSql.Expr
import WindowSql.Text.Dotted

/-!
The window calls of an expression and the columns it reads.

`calls` lists the outermost calls from left to right. A call may hold no other call in its arguments
or its ordering; `Call.nested?` finds the first that does. `replaceCalls` and `unqualify` change an
expression outside its calls.
-/

namespace WindowSql

namespace Expr

/-- The outermost calls, from left to right. -/
def calls : Expr → List Call
  | call func args orderBy => [⟨func, args, orderBy⟩]
  | binary _ l r => calls l ++ calls r
  | desc e => calls e
  | _ => []

def firstCall? (e : Expr) : Option Call := e.calls.head?

def containsCall (e : Expr) : Bool := !e.calls.isEmpty

mutual

/-- How deeply calls are put into calls. -/
def callDepth : Expr → Nat
  | call _ args none => callDepthAll args + 1
  | call _ args (some keys) => max (callDepthAll args) (callDepthAll keys) + 1
  | binary _ l r => max (callDepth l) (callDepth r)
  | desc e => callDepth e
  | _ => 0

def callDepthAll : List Expr → Nat
  | [] => 0
  | e :: rest => max (callDepth e) (callDepthAll rest)

end

mutual

/-- Every column an expression refers to, in the order met, those of its calls included. -/
def columns : Expr → List String
  | column name => [name]
  | call _ args none => columnsAll args
  | call _ args (some keys) => columnsAll args ++ columnsAll keys
  | binary _ l r => columns l ++ columns r
  | desc e => columns e
  | literal _ => []

def columnsAll : List Expr → List String
  | [] => []
  | e :: rest => columns e ++ columnsAll rest

end

/-- Puts a column in place of every call that has an alias. -/
def replaceCalls (alias? : Call → Option String) : Expr → Expr
  | call func args orderBy =>
    match alias? ⟨func, args, orderBy⟩ with
    | some name => column name
    | none => call func args orderBy
  | binary op l r => binary op (replaceCalls alias? l) (replaceCalls alias? r)
  | desc e => desc (replaceCalls alias? e)
  | e => e

/-- Takes the qualifier off every column outside a call that is qualified by one of the names. -/
def unqualify (qualifiers : List String) : Expr → Expr
  | column name =>
    let q := Text.qualified name
    if q.qualifier ≠ "" ∧ q.qualifier ∈ qualifiers then column q.column else column name
  | binary op l r => binary op (unqualify qualifiers l) (unqualify qualifiers r)
  | desc e => desc (unqualify qualifiers e)
  | e => e

end Expr

namespace Call

/-- Where a call is found inside another one. -/
structure Nested where
  inner : String
  /-- The argument it is in; nothing for the ordering. -/
  position : Option Nat
  deriving DecidableEq, Repr

def nestedInArgs? (args : List Expr) (position : Nat) : Option Nested :=
  match args with
  | [] => none
  | e :: rest =>
    match e.firstCall? with
    | some c => some ⟨c.func, some position⟩
    | none => nestedInArgs? rest (position + 1)

/-- The first call inside the arguments, else inside the ordering. -/
def nested? (c : Call) : Option Nested :=
  (nestedInArgs? c.args 0).or ((c.keys.findSome? Expr.firstCall?).map fun i => ⟨i.func, none⟩)

end Call

end WindowSql
