import Mathlib.Algebra.Group.Int.Defs
import Mathlib.Algebra.Group.Nat.Defs
import WindowSql.Context
import WindowSql.Dialect
import WindowSql.Expr.Calls
import WindowSql.Proofs.Calls
import WindowSql.Proofs.Outcomes

/-!
# Long integers

An integer has a text where it has no more digits than the limit:

* `text_eq_ok`, `admits_of_natAbs_lt`: which integers have one, whatever the limit is;
* `literal_eq_ok`: a constant that has a text is spelled as the dialect spells it;
* `exists_describe_iff`: an expression is described exactly where each constant in it has a text;
* `Limits.Refuses`: no error but that of the limit comes of it.
-/

namespace WindowSql

namespace Limits
variable (l : Limits)

def Admits (i : Int) : Prop := ∀ most, l.digits = some most → i.natAbs < 10 ^ most

/-- The error of an integer beyond the limit. -/
def Refuses (e : LongInteger) : Prop := l.digits = some e.limit

theorem floor_le {most : Nat} (h : l.digits = some most) : 640 ≤ most := by
  have floor := l.digits_floor
  rw [h] at floor
  simpa using floor

/-- An integer that is short enough for every limit. -/
theorem admits_of_natAbs_lt {digits : Nat} (few : digits ≤ 640) {i : Int}
    (h : i.natAbs < 10 ^ digits) : l.Admits i := fun _ limit =>
  Nat.lt_of_lt_of_le h (Nat.pow_le_pow_right (by decide) (Nat.le_trans few (l.floor_le limit)))

theorem admits_of_unlimited (unlimited : l.digits = none) (i : Int) : l.Admits i := by
  intro most limit
  rw [unlimited] at limit
  cases limit

theorem exceeded?_eq_none_iff {digits : Nat} :
    l.exceeded? digits = none ↔ ∀ most, l.digits = some most → digits ≤ most := by
  cases h : l.digits <;> simp [exceeded?, h]

theorem exceeded?_eq_none_iff_admits {i : Int} :
    l.exceeded? (Nat.toDigits 10 i.natAbs).length = none ↔ l.Admits i := by
  rw [exceeded?_eq_none_iff]
  refine forall₂_congr fun most limit => Nat.length_toDigits_le_iff (by decide) ?_
  have floor := l.floor_le limit
  omega

theorem text_eq_ok {i : Int} {t : String} : l.text i = .ok t ↔ l.Admits i ∧ toString i = t := by
  rw [← exceeded?_eq_none_iff_admits, text]
  cases l.exceeded? (Nat.toDigits 10 i.natAbs).length <;> simp

theorem text_of_admits {i : Int} (h : l.Admits i) : l.text i = .ok (toString i) :=
  l.text_eq_ok.mpr ⟨h, rfl⟩

theorem text_failsOnly (i : Int) : FailsOnly l.Refuses (l.text i) := by
  unfold text
  split
  · rename_i limit exceeded
    exact .error (Option.filter_eq_some_iff.mp exceeded).1
  · exact .ok _

/-- The least integer that is too long is refused. -/
theorem text_pow {most : Nat} (limit : l.digits = some most) :
    l.text (10 ^ most) = .error ⟨most⟩ := by
  cases refused : l.text (10 ^ most) with
  | ok t =>
    have admitted := (l.text_eq_ok.mp refused).1 most limit
    simp [Int.natAbs_pow] at admitted
  | error e =>
    have same : l.digits = some e.limit := l.text_failsOnly _ e refused
    obtain rfl := Option.some.inj (limit.symm.trans same)
    rfl

end Limits

/-- A constant that has a text. -/
def Literal.Admitted (l : Limits) : Literal → Prop
  | int i => l.Admits i
  | _ => True

theorem Literal.admitted_of_unlimited {l : Limits} (unlimited : l.digits = none) (v : Literal) :
    v.Admitted l := by
  cases v with
  | int i => exact l.admits_of_unlimited unlimited i
  | _ => trivial

theorem Dialect.literal_eq_ok {l : Limits} {d : Dialect} {v : Literal} {t : String} :
    d.literal l v = .ok t ↔ v.Admitted l ∧ d.spelling v = t := by
  cases v with
  | int i => exact l.text_eq_ok
  | _ => simp [literal, Literal.Admitted]

theorem Dialect.literal_failsOnly (l : Limits) (d : Dialect) (v : Literal) :
    FailsOnly l.Refuses (d.literal l v) := by
  cases v with
  | int i => exact l.text_failsOnly i
  | _ => exact .ok _

theorem Literal.describe_failsOnly (l : Limits) (v : Literal) :
    FailsOnly l.Refuses (v.describe l) := by
  cases v with
  | int i => exact l.text_failsOnly i
  | _ => exact .ok _

theorem Literal.exists_describe_iff {l : Limits} {v : Literal} :
    (∃ t, v.describe l = .ok t) ↔ v.Admitted l := by
  cases v <;> simp [describe, Admitted, l.text_eq_ok]

namespace Expr

/-- The constants of an expression outside its calls. -/
def outerLiterals : Expr → List Literal
  | literal v => [v]
  | binary _ a b => outerLiterals a ++ outerLiterals b
  | desc e => outerLiterals e
  | _ => []

mutual

/-- The constants of an expression, those of its calls included. -/
def literals : Expr → List Literal
  | column _ => []
  | literal v => [v]
  | call _ args none => literalsAll args
  | call _ args (some keys) => literalsAll args ++ literalsAll keys
  | binary _ a b => literals a ++ literals b
  | desc e => literals e

def literalsAll : List Expr → List Literal
  | [] => []
  | e :: rest => literals e ++ literalsAll rest

end

def Admitted (l : Limits) (e : Expr) : Prop := ∀ v ∈ e.literals, v.Admitted l

theorem mem_literalsAll {v : Literal} {es : List Expr} :
    v ∈ literalsAll es ↔ ∃ e ∈ es, v ∈ e.literals := by
  induction es with
  | nil => simp [literalsAll]
  | cons e rest ih => simp [literalsAll, ih]

theorem mem_literals_call {v : Literal} {c : Call} :
    v ∈ c.toExpr.literals ↔ ∃ e ∈ c.args ++ c.keys, v ∈ e.literals := by
  obtain ⟨func, args, _ | keys⟩ := c <;>
    simp [Call.toExpr, Call.keys, literals, mem_literalsAll, or_and_right, exists_or]

/-- The constants of an expression stand in it outside its calls, or in one of these. -/
theorem mem_literals {v : Literal} (e : Expr) :
    v ∈ e.literals ↔ v ∈ e.outerLiterals ∨ ∃ c ∈ e.calls, v ∈ c.toExpr.literals := by
  induction e with
  | column name => simp [literals, outerLiterals, calls]
  | literal w => simp [literals, outerLiterals, calls]
  | call func args orderBy => simp [outerLiterals, calls, Call.toExpr]
  | binary op a b iha ihb =>
    simp only [literals, outerLiterals, calls, List.mem_append, iha, ihb, or_and_right, exists_or]
    exact or_or_or_comm
  | desc e ih => simpa only [literals, outerLiterals, calls] using ih

theorem literals_stripDesc (e : Expr) : e.stripDesc.literals = e.literals := by
  induction e with
  | desc e ih => exact ih
  | _ => rfl

theorem outerLiterals_replaceCalls (alias? : Call → Option String) (e : Expr) :
    (e.replaceCalls alias?).outerLiterals = e.outerLiterals := by
  induction e with
  | column name => rfl
  | literal v => rfl
  | call func args orderBy =>
    rw [replaceCalls]
    split <;> rfl
  | binary op a b iha ihb => simp only [replaceCalls, outerLiterals, iha, ihb]
  | desc e ih => simpa only [replaceCalls, outerLiterals] using ih

theorem outerLiterals_unqualify (qualifiers : List String) (e : Expr) :
    (e.unqualify qualifiers).outerLiterals = e.outerLiterals := by
  induction e with
  | column name =>
    rw [unqualify_column]
    rfl
  | literal v => rfl
  | call func args orderBy => rfl
  | binary op a b iha ihb => simp only [unqualify, outerLiterals, iha, ihb]
  | desc e ih => simpa only [unqualify, outerLiterals] using ih

mutual

theorem describe_failsOnly (l : Limits) : ∀ e : Expr, FailsOnly l.Refuses (e.describe l)
  | column _ => .ok _
  | literal v => v.describe_failsOnly l
  | call _ args none => (describeAll_failsOnly l args).bind fun _ _ => .ok _
  | call _ args (some keys) =>
    (describeAll_failsOnly l args).bind fun _ _ =>
      (describeAll_failsOnly l keys).bind fun _ _ => .ok _
  | binary _ a b =>
    (describe_failsOnly l a).bind fun _ _ => (describe_failsOnly l b).bind fun _ _ => .ok _
  | desc e => (describe_failsOnly l e).bind fun _ _ => .ok _

theorem describeAll_failsOnly (l : Limits) :
    ∀ es : List Expr, FailsOnly l.Refuses (describeAll l es)
  | [] => .ok _
  | e :: rest =>
    (describe_failsOnly l e).bind fun _ _ => (describeAll_failsOnly l rest).bind fun _ _ => .ok _

end

mutual

/-- An expression is described where every constant in it has a text. -/
theorem exists_describe_iff {l : Limits} :
    ∀ e : Expr, (∃ t, e.describe l = .ok t) ↔ e.Admitted l
  | column _ => by simp [describe, Admitted, literals]
  | literal v => by simp [describe, Admitted, literals, v.exists_describe_iff]
  | call _ args none => by
    simp [describe, Admitted, literals, bind_eq_ok, exists_describeAll_iff args]
  | call _ args (some keys) => by
    simp [describe, Admitted, literals, bind_eq_ok, exists_describeAll_iff args,
      exists_describeAll_iff keys, or_imp, forall_and]
  | binary _ a b => by
    simp [describe, Admitted, literals, bind_eq_ok, exists_describe_iff a,
      exists_describe_iff b, or_imp, forall_and]
  | desc e => by simp [describe, Admitted, literals, bind_eq_ok, exists_describe_iff e]

theorem exists_describeAll_iff {l : Limits} :
    ∀ es : List Expr, (∃ ts, describeAll l es = .ok ts) ↔ ∀ v ∈ literalsAll es, v.Admitted l
  | [] => by simp [describeAll, literalsAll]
  | e :: rest => by
    simp [describeAll, literalsAll, bind_eq_ok, exists_describe_iff e,
      exists_describeAll_iff rest, Admitted, or_imp, forall_and]

end

end Expr

end WindowSql
