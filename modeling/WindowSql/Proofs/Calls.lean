import WindowSql.Statement.Check

/-!
# Calls and columns under rewriting of expressions

What `replaceCalls` and `unqualify` leave of the calls and the columns of an expression:

* `calls_replaceCalls`, `calls_unqualify`: the calls without an alias are left, no call is added;
* `unqualify_column`: a column becomes its bare name;
* `nested?_eq_none_iff`: a call that holds no call has none in its arguments and keys.
-/

namespace WindowSql

/-- A column name without its qualifier, where that is one of the given names. -/
def bareName (qualifiers : List String) (name : String) : String :=
  let q := Text.qualified name
  if q.qualifier ≠ "" ∧ q.qualifier ∈ qualifiers then q.column else name

namespace Expr

/-- Induction over an expression outside its calls, which it takes as they are. -/
@[induction_eliminator]
theorem outerInduction {motive : Expr → Prop} (column : ∀ name, motive (column name))
    (literal : ∀ v, motive (literal v))
    (call : ∀ func args orderBy, motive (call func args orderBy))
    (binary : ∀ op l r, motive l → motive r → motive (binary op l r))
    (desc : ∀ e, motive e → motive (desc e)) : ∀ e, motive e
  | .column name => column name
  | .literal v => literal v
  | .call func args orderBy => call func args orderBy
  | .binary op l r =>
    binary op l r (outerInduction column literal call binary desc l)
      (outerInduction column literal call binary desc r)
  | .desc e => desc e (outerInduction column literal call binary desc e)

theorem unqualify_column (qualifiers : List String) (name : String) :
    (column name).unqualify qualifiers = column (bareName qualifiers name) := by
  simp only [unqualify, bareName]
  split <;> rfl

def outerColumns : Expr → List String
  | column name => [name]
  | binary _ l r => outerColumns l ++ outerColumns r
  | desc e => outerColumns e
  | _ => []

@[simp] theorem containsCall_eq_false_iff (e : Expr) : e.containsCall = false ↔ e.calls = [] := by
  simp [containsCall]

theorem calls_unqualify (qualifiers : List String) (e : Expr) :
    (e.unqualify qualifiers).calls = e.calls := by
  induction e with
  | column name => rw [unqualify_column]; rfl
  | literal v => rfl
  | call f as o => rfl
  | binary op l r ihl ihr => simp only [unqualify, calls, ihl, ihr]
  | desc e ih => simp only [unqualify, calls, ih]

theorem calls_replaceCalls (alias? : Call → Option String) (e : Expr) :
    (e.replaceCalls alias?).calls = e.calls.filter fun c => (alias? c).isNone := by
  induction e with
  | column name => rfl
  | literal v => rfl
  | call f as o =>
    simp only [replaceCalls, calls]
    cases h : alias? ⟨f, as, o⟩ <;> simp [calls, h]
  | binary op l r ihl ihr => simp only [replaceCalls, calls, ihl, ihr, List.filter_append]
  | desc e ih => simp only [replaceCalls, calls, ih]

/-- No call is left where every call has an alias. -/
theorem calls_replaceCalls_eq_nil {alias? : Call → Option String} {e : Expr}
    (h : ∀ c ∈ e.calls, ∃ name, alias? c = some name) : (e.replaceCalls alias?).calls = [] := by
  rw [calls_replaceCalls, List.filter_eq_nil_iff]
  intro c hc
  obtain ⟨name, hn⟩ := h c hc
  simp [hn]

theorem firstCall?_eq_none_iff (e : Expr) : e.firstCall? = none ↔ e.calls = [] := by
  simp [firstCall?]

end Expr

namespace Call

theorem nestedInArgs?_eq_none_iff (args : List Expr) (position : Nat) :
    nestedInArgs? args position = none ↔ ∀ e ∈ args, e.calls = [] := by
  induction args generalizing position with
  | nil => simp [nestedInArgs?]
  | cons e rest ih =>
    rw [List.forall_mem_cons, ← ih (position + 1), ← Expr.firstCall?_eq_none_iff, nestedInArgs?]
    cases e.firstCall? <;> simp

theorem nested?_eq_none_iff (c : Call) :
    c.nested? = none ↔ (∀ e ∈ c.args, e.calls = []) ∧ ∀ k ∈ c.keys, k.calls = [] := by
  simp only [nested?, Option.or_eq_none_iff, Option.map_eq_none_iff, nestedInArgs?_eq_none_iff,
    List.findSome?_eq_none_iff, Expr.firstCall?_eq_none_iff]

theorem checkNested_eq_ok (c : Call) : c.checkNested = .ok () ↔ c.nested? = none := by
  unfold checkNested
  cases c.nested? <;> simp

end Call

end WindowSql
