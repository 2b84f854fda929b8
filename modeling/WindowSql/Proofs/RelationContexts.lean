import WindowSql.Context
import WindowSql.Proofs.Outcomes

/-!
# Contexts of relations

A context is made of a grouping and an arrangement as they are given, or taken from a relation,
whose grouping and arrangement are read entry by entry. A bare name or key is one entry where a
context is made, and its characters or its fields where a relation is read:

* `ofSpecs_eq_map`: a context is a default ordering with a partition and a profile beside it;
* `orderOf_spread_key`, `orderOf_spread_column`: what becomes of a bare key and of a bare name;
* `ofRelation_eq_make_iff`: when both ways lead to the same context, or to the same fault.
-/

namespace WindowSql

namespace Context

def orderOf (specs : List OrderSpec) : Except ContextFault (Option OrderKey) :=
  (ofSpecs [] specs {}).map (·.defaultOrder)

/-- A partition and a profile stand beside the default ordering, and change no fault of it. -/
theorem ofSpecs_eq_map (partition : List Json) (specs : List OrderSpec) (profile : Profile) :
    ofSpecs partition specs profile = (orderOf specs).map (⟨partition, ·, profile⟩) := by
  rw [orderOf, ofSpecs, ofSpecs]
  cases specs.mapM OrderSpec.orderKey with
  | error fault => rfl
  | ok keys =>
    match keys with
    | [] => rfl
    | [_] => rfl
    | _ :: _ :: _ => rfl

theorem ofSpecs_eq_iff {partition partition' : List Json} {specs specs' : List OrderSpec}
    {profile : Profile} :
    ofSpecs partition specs profile = ofSpecs partition' specs' profile ↔
      orderOf specs = orderOf specs' ∧
      (partition = partition' ∨ ∃ fault, ofSpecs partition' specs' profile = .error fault) := by
  rw [ofSpecs_eq_map, ofSpecs_eq_map]
  cases orderOf specs <;> cases orderOf specs' <;> simp [Except.map, and_comm]

end Context

theorem Text.eq_singleton_of_toList {name : String} {c : Char} (h : name.toList = [c]) :
    name = String.singleton c := by
  rw [← String.ofList_toList (s := name), h]
  rfl

namespace Arrangement

/-- The fields of a key are no ordering: its expression is no direction. -/
theorem orderKey_exprField (e : Expr) :
    (OrderSpec.entries [.str "expr", Schema.encodeExpr e]).orderKey =
      .error (.schema ⟨"OrderKey",
        [⟨[.field "direction"], .notLiteral Schema.directionNames⟩]⟩) := by
  cases e with
  | call func args orderBy => cases orderBy <;> rfl
  | column | literal | binary | desc => rfl

theorem orderOf_spread_key (k : OrderKey) :
    Context.orderOf (key k).spread = .error (.schema ⟨"OrderKey",
      [⟨[.field "direction"], .notLiteral Schema.directionNames⟩]⟩) := by
  rw [spread, Context.orderOf, Context.ofSpecs, List.mapM_cons, orderKey_exprField]
  rfl

/-- The columns that the characters of a name name. -/
def letterKeys (name : String) : List OrderKey :=
  name.toList.map fun c => ⟨.column (String.singleton c), .asc⟩

theorem mapM_orderKey_letters (cs : List Char) :
    (cs.map fun c => OrderSpec.column (String.singleton c)).mapM OrderSpec.orderKey =
      .ok (cs.map fun c => ⟨.column (String.singleton c), .asc⟩) := by
  induction cs with
  | nil => rfl
  | cons c rest ih =>
    rw [List.map_cons, List.mapM_cons, ih]
    rfl

/-- Of a bare name that is read entry by entry, the first character is the ordering, if it is the
only one. -/
theorem orderOf_spread_column (name : String) :
    Context.orderOf (column name).spread =
      match letterKeys name with
      | [] => .ok none
      | [k] => .ok (some k)
      | keys => .error (.config (.severalOrderKeys keys)) := by
  rw [spread, Context.orderOf, Context.ofSpecs, mapM_orderKey_letters, letterKeys]
  match name.toList with
  | [] => rfl
  | [_] => rfl
  | _ :: _ :: _ => rfl

/-- Reading an arrangement entry by entry changes nothing in it: it is given as several entries, or
its name is a single character. -/
def Listed : Arrangement → Prop
  | column name => name.length = 1
  | key _ => False
  | several _ => True

instance (a : Arrangement) : Decidable a.Listed :=
  match a with
  | column name => inferInstanceAs (Decidable (name.length = 1))
  | key _ => inferInstanceAs (Decidable False)
  | several _ => inferInstanceAs (Decidable True)

theorem orderOf_spread_eq_iff (a : Arrangement) :
    Context.orderOf a.spread = Context.orderOf a.specs ↔ a.Listed := by
  cases a with
  | several specs => exact iff_of_true rfl trivial
  | key k =>
    rw [orderOf_spread_key]
    exact iff_of_false nofun id
  | column name =>
    have bare : Context.orderOf (column name).specs = .ok (some ⟨.column name, .asc⟩) := rfl
    rw [orderOf_spread_column, bare, Listed, letterKeys, ← String.length_toList]
    rcases h : name.toList with _ | ⟨c, _ | ⟨d, rest⟩⟩
    · simp
    · rw [Text.eq_singleton_of_toList h]
      exact iff_of_true rfl rfl
    · simp

end Arrangement

namespace Grouping

/-- Reading a grouping entry by entry changes nothing in it. -/
def Listed : Grouping → Prop
  | one name => name.length = 1
  | several _ => True

instance (g : Grouping) : Decidable g.Listed :=
  match g with
  | one name => inferInstanceAs (Decidable (name.length = 1))
  | several _ => inferInstanceAs (Decidable True)

theorem spread_eq_columns_iff (g : Grouping) : g.spread = g.columns ↔ g.Listed := by
  cases g with
  | several columns => exact iff_of_true rfl trivial
  | one name =>
    rw [spread, columns, Listed, ← String.length_toList]
    rcases h : name.toList with _ | ⟨c, _ | ⟨d, rest⟩⟩
    · simp
    · rw [Text.eq_singleton_of_toList h]
      exact iff_of_true rfl rfl
    · simp

end Grouping

namespace Context

/-- **Two ways to a context.** A relation leads to the context that is made of its grouping and its
arrangement, or to the same fault, exactly where the arrangement is not a bare key or a bare name of
other than one character, and neither is the grouping, which does not matter where the arrangement
is at fault. -/
theorem ofRelation_eq_make_iff (g : Grouping) (a : Arrangement) (profile : Profile) :
    ofRelation g a profile = make g a profile ↔
      a.Listed ∧ (g.Listed ∨ ∃ fault, make g a profile = .error fault) := by
  rw [ofRelation, make, ofSpecs_eq_iff, a.orderOf_spread_eq_iff, g.spread_eq_columns_iff]

/-- A bare name is one column where a context is made. From a relation it is a column for each of
its letters, and is refused as an ordering, as a bare key is. -/
theorem bare_entries_spread :
    make (.one "year") (.several [.column "G"]) {} =
      .ok ⟨[.str "year"], some ⟨.column "G", .asc⟩, {}⟩ ∧
    ofRelation (.one "year") (.several [.column "G"]) {} =
      .ok ⟨[.str "y", .str "e", .str "a", .str "r"], some ⟨.column "G", .asc⟩, {}⟩ ∧
    make (.several []) (.column "year") {} = .ok ⟨[], some ⟨.column "year", .asc⟩, {}⟩ ∧
    ofRelation (.several []) (.column "year") {} =
      .error (.config (.severalOrderKeys
        [⟨.column "y", .asc⟩, ⟨.column "e", .asc⟩, ⟨.column "a", .asc⟩, ⟨.column "r", .asc⟩])) ∧
    make (.several []) (.key ⟨.column "year", .desc⟩) {} =
      .ok ⟨[], some ⟨.column "year", .desc⟩, {}⟩ ∧
    ofRelation (.several []) (.key ⟨.column "year", .desc⟩) {} =
      .error (.schema ⟨"OrderKey", [⟨[.field "direction"], .notLiteral ["ASC", "DESC"]⟩]⟩) :=
  ⟨rfl, rfl, rfl, rfl, rfl, rfl⟩

end Context

end WindowSql
