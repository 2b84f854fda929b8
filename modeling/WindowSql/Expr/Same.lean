import WindowSql.Expr

/-!
When two expressions are the same: equal trees, with numbers and truth values compared by exact
value, so that 1, 1.0 and true are the same literal. A call without an ordering differs from one
with an empty ordering. Lists of pairs keyed by an expression keep the first key of each.
-/

namespace WindowSql

/-- A literal that has a value as a number. -/
inductive Quantity where
  | int (i : Int)
  | float (x : Double)

def Quantity.same : Quantity → Quantity → Bool
  | int i, int j => i == j
  | int i, float x => x.isInt i
  | float x, int i => x.isInt i
  | float x, float y => x.sameValue y

namespace Literal

def quantity? : Literal → Option Quantity
  | bool b => some (.int (if b then 1 else 0))
  | int i => some (.int i)
  | float x => some (.float x)
  | _ => none

def same (a b : Literal) : Bool :=
  match a.quantity?, b.quantity? with
  | some x, some y => x.same y
  | none, none => a == b
  | _, _ => false

end Literal

namespace Expr

mutual

def same : Expr → Expr → Bool
  | column a, column b => a == b
  | literal a, literal b => a.same b
  | call f as none, call g bs none => f == g && sameAll as bs
  | call f as (some ks), call g bs (some ls) => f == g && sameAll as bs && sameAll ks ls
  | binary o l r, binary p l' r' => o == p && same l l' && same r r'
  | desc a, desc b => same a b
  | _, _ => false

def sameAll : List Expr → List Expr → Bool
  | [], [] => true
  | a :: as, b :: bs => same a b && sameAll as bs
  | _, _ => false

end

end Expr

def Call.same (a b : Call) : Bool := a.toExpr.same b.toExpr

/-- The value kept for a key, by a given sameness. -/
def lookupBy {α β : Type} (same : α → α → Bool) (pairs : List (α × β)) (key : α) : Option β :=
  (pairs.find? fun p => same p.1 key).map Prod.snd

/-- Changes the value kept for a key, or adds the key at the end. -/
def upsertBy {α β : Type} (same : α → α → Bool) (key : α) (change : Option β → β) :
    List (α × β) → List (α × β)
  | [] => [(key, change none)]
  | (k, v) :: rest =>
    if same k key then (k, change (some v)) :: rest else (k, v) :: upsertBy same key change rest

end WindowSql
