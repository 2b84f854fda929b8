import WindowSql.Proofs.PromotedColumns

/-!
# Putting promoted calls back

Whether a promotion can be undone by putting each call back in place of its column:

* `Expr.expand`: puts calls in place of columns; `same_expand_iff`: when that undoes the
  replacement of calls and of qualifiers in one expression;
* `expand_promoted_iff`: a promotion is undone exactly when no column that loses its qualifier
  meets a generated name, and no generated name looks like a column qualified by the source;
* `captured_column`: a column `batting.rank_1` is captured by the generated name `rank_1`, which is
  taken to be fresh because names are compared with their qualifiers.
-/

namespace WindowSql

namespace Expr

mutual

/-- Puts a call in place of every column that has one, inside calls too. -/
def expand (call? : String → Option Call) : Expr → Expr
  | column name =>
    match call? name with
    | some c => c.toExpr
    | none => column name
  | literal v => literal v
  | call func args none => call func (expandAll call? args) none
  | call func args (some keys) => call func (expandAll call? args) (some (expandAll call? keys))
  | binary op l r => binary op (expand call? l) (expand call? r)
  | desc e => desc (expand call? e)

def expandAll (call? : String → Option Call) : List Expr → List Expr
  | [] => []
  | e :: rest => expand call? e :: expandAll call? rest

end

/-- Expansion undoes the replacement of calls and qualifiers exactly when no bare column has a call
and every alias, bare, has the call it stands for. -/
theorem same_expand_iff {alias? : Call → Option String} {call? : String → Option Call}
    {qualifiers : List String} {e : Expr} (h : ∀ c ∈ e.calls, ∃ name, alias? c = some name) :
    (((e.replaceCalls alias?).unqualify qualifiers).expand call?).same (e.unqualify qualifiers) =
        true ↔
      (∀ name ∈ e.outerColumns, call? (bareName qualifiers name) = none) ∧
      (∀ c ∈ e.calls, ∀ name, alias? c = some name →
        ∃ c', call? (bareName qualifiers name) = some c' ∧ c'.same c = true) := by
  induction e with
  | column name =>
    simp only [replaceCalls, unqualify_column, expand, outerColumns, calls, List.mem_singleton,
      forall_eq, List.not_mem_nil, false_implies, implies_true, and_true]
    cases call? (bareName qualifiers name) with
    | none => simp [same]
    | some c => simp [Call.toExpr, same]
  | literal v => simp [replaceCalls, unqualify, expand, outerColumns, calls, same_self]
  | call func args orderBy =>
    obtain ⟨name, hn⟩ := h ⟨func, args, orderBy⟩ (by simp [calls])
    simp only [replaceCalls, hn, unqualify_column, expand, outerColumns, calls,
      List.mem_singleton, forall_eq, List.not_mem_nil, false_implies, implies_true, true_and,
      Option.some.injEq, forall_eq']
    cases call? (bareName qualifiers name) with
    | none => simp [unqualify, same]
    | some c => simp [unqualify, Call.same, Call.toExpr]
  | binary op l r ihl ihr =>
    have left := ihl fun c hc => h c (by simp [calls, hc])
    have right := ihr fun c hc => h c (by simp [calls, hc])
    simp only [replaceCalls, unqualify, expand, same, beq_self_eq_true, Bool.true_and,
      Bool.and_eq_true, left, right, outerColumns, calls, List.forall_mem_append]
    exact and_and_and_comm
  | desc e ih =>
    simpa only [replaceCalls, unqualify, expand, same, outerColumns, calls] using ih h

end Expr

namespace Block

def mapExprs (f : Expr → Expr) (b : Block) : Block :=
  { b with
    items := b.items.map fun item => { item with expr := f item.expr }
    predicate := b.predicate.map f }

/-- The same select list, item by item, and the same predicate. -/
def SameSelection (a b : Block) : Prop :=
  List.Forall₂ (fun i j => i.name = j.name ∧ i.promoted = j.promoted ∧
    i.expr.same j.expr = true) a.items b.items ∧
  Option.Rel (fun p q => p.same q = true) a.predicate b.predicate

theorem sameSelection_mapExprs_iff {f g : Expr → Expr} {b : Block} :
    (b.mapExprs f).SameSelection (b.mapExprs g) ↔
      ∀ e ∈ b.exprs, (f e).same (g e) = true := by
  simp only [SameSelection, mapExprs, List.forall₂_map_left_iff, List.forall₂_map_right_iff,
    List.forall₂_same, true_and, exprs, List.forall_mem_append, List.forall_mem_map]
  refine and_congr_right fun _ => ?_
  cases b.predicate <;> simp

theorem mapExprs_promotedOuter (f : Expr → Expr) (b : Block) (names : List (Call × String))
    (label : String) {a : Block} :
    ((b.promotedOuter names label).mapExprs f).SameSelection a ↔
      (b.mapExprs fun e => f (b.overPromoted names e)).SameSelection a := by
  simp [SameSelection, mapExprs, promotedOuter, Function.comp_def]

end Block

namespace Setting

/-- A name stands, bare, for the call it was given to exactly where it is bare itself. -/
theorem PromotedUnder.stands_iff {s : Setting} {stmt : Statement} {names : List (Call × String)}
    (h : s.PromotedUnder stmt names) (bare : String → String) :
    (∀ c ∈ stmt.block.calls, ∀ name, lookupBy Call.same names c = some name →
      ∃ c', (names.map Prod.swap).lookup (bare name) = some c' ∧ c'.same c = true) ↔
      ∀ name ∈ names.map Prod.snd, bare name = name := by
  constructor
  · intro stands name hn
    obtain ⟨⟨c, name⟩, mem, rfl⟩ := List.mem_map.mp hn
    obtain ⟨c', found, same⟩ := stands c (h.key_mem_calls mem) name (h.lookup_key mem)
    exact (h.key_unique (h.named.lookup_iff.mp found) mem same).2
  · intro bares c _ name found
    obtain ⟨key, mem, same⟩ := lookupBy_eq_some found
    have here : bare name = name := bares name (List.mem_map.mpr ⟨_, mem, rfl⟩)
    exact ⟨key, by rw [here]; exact h.named.lookup_iff.mpr mem, same⟩

/-- **Expansion of promoted calls.** Of a statement without promoted items that filters on a window
call, the calls can be put back in place of their columns exactly when no column outside a call is
called, without its qualifier, like a promoted call, and no promoted call has a name that is
qualified by the source. -/
theorem expand_promoted_iff (s : Setting) {stmt r : Statement} (unmarked : stmt.Unmarked)
    (filters : stmt.block.filtersOnWindow = true) (h : s.promote? stmt = .ok (some r)) :
    (r.block.mapExprs fun e => e.expand fun name => r.promoted.lookup name).SameSelection
        (stmt.block.mapExprs fun e => e.unqualify stmt.block.qualifiers) ↔
      (∀ e ∈ stmt.block.exprs, ∀ name ∈ e.outerColumns,
        bareName stmt.block.qualifiers name ∉ r.promoted.map Prod.fst) ∧
      (∀ name ∈ r.promoted.map Prod.fst, bareName stmt.block.qualifiers name = name) := by
  obtain ⟨source, names, eq, under, rfl⟩ :=
    exists_names_of_promote? unmarked.readsPromoted filters h
  have unswapped : (names.map Prod.swap).map Prod.fst = names.map Prod.snd := by
    simp [Function.comp_def]
  rw [Statement.promoted_derived _ _ _ under.named.nodup, unswapped]
  have absent (name : String) : (names.map Prod.swap).lookup name = none ↔
      name ∉ names.map Prod.snd := by
    rw [← unswapped, List.lookup_eq_none_iff, List.mem_map]
    simp only [bne_iff_ne, not_exists, not_and]
    exact forall₂_congr fun p _ => ne_comm
  have calls : source.block.calls = stmt.block.calls := by rw [eq]
  have named (e : Expr) (he : e ∈ stmt.block.exprs) :
      ∀ c ∈ e.calls, ∃ name, lookupBy Call.same names c = some name :=
    fun c hc => under.exists_name (calls ▸ Block.mem_calls.mpr ⟨e, he, hc⟩)
  rw [← under.stands_iff, calls]
  refine Block.mapExprs_promotedOuter _ _ _ _ |>.trans ?_
  rw [Block.sameSelection_mapExprs_iff]
  refine (forall₂_congr fun e he => Expr.same_expand_iff (named e he)).trans ?_
  simp only [forall₂_and, ← absent, Block.mem_calls]
  refine and_congr_right fun _ => ?_
  exact ⟨fun stands c ⟨e, he, hc⟩ => stands e he c hc, fun stands e he c hc => stands c ⟨e, he, hc⟩⟩

end Setting

/-- A qualified column of the table loses its qualifier and is no promoted name. -/
theorem expand_promoted_iff_topGames :
    (topGames (.column "batting.cap")).Unmarked ∧
    Setting.postgres.promote? (topGames (.column "batting.cap")) =
      .ok (some (topGamesMoved (.column "cap"))) ∧
    ((topGamesMoved (.column "cap")).block.mapExprs fun e =>
        e.expand fun name => (topGamesMoved (.column "cap")).promoted.lookup name).SameSelection
      ((topGames (.column "batting.cap")).block.mapExprs fun e =>
        e.unqualify ["batting", "batting"]) := by
  have unmarked : (topGames (.column "batting.cap")).Unmarked := by decide
  have run : Setting.postgres.promote? (topGames (.column "batting.cap")) =
      .ok (some (topGamesMoved (.column "cap"))) := rfl
  have free := Setting.postgres.expand_promoted_iff unmarked rfl run
  exact ⟨unmarked, run, free.mpr (by decide)⟩

/-- The name `rank_1` is fresh, as the table's own column is written `batting.rank_1`; the outer
block has both under one name. -/
theorem captured_column :
    (topGames (.column "batting.rank_1")).Unmarked ∧
    (topGames (.column "batting.rank_1")).block.filtersOnWindow = true ∧
    Setting.postgres.promote? (topGames (.column "batting.rank_1")) =
      .ok (some (topGamesMoved (.column "rank_1"))) ∧
    ¬((topGamesMoved (.column "rank_1")).block.mapExprs fun e =>
        e.expand fun name => (topGamesMoved (.column "rank_1")).promoted.lookup name).SameSelection
      ((topGames (.column "batting.rank_1")).block.mapExprs fun e =>
        e.unqualify ["batting", "batting"]) := by
  refine ⟨by decide, rfl, rfl, ?_⟩
  rintro ⟨-, predicate⟩
  have captured : (Expr.binary .le (minRank "G") (minRank "G")).same
      (.binary .le (minRank "G") (.column "rank_1")) = true := by
    cases predicate with
    | some same => exact same
  revert captured
  decide

end WindowSql
