import WindowSql.Proofs.Compilation
import WindowSql.Proofs.PromotedColumns

/-!
# Columns in scope

Which columns a level over promoted columns refers to, at any depth of a compiled statement:

* `forall_columns_overPromoted`: the columns of an outer block are the columns of its level and the
  names of its calls, each without the qualifiers of the source;
* `Moves.scoped_head_iff`, `Moves.scoped_below_iff`: every level of a moved statement refers only to
  columns in scope exactly where every level that is moved keeps to them, in what it writes and in
  the names its calls are given;
* `compiled_scoped_iff`: of a compiled statement the same, where nothing is asked of the outermost
  level, the one that is checked;
* `column_out_of_scope`: a column of another table is refused at the outermost level and passed
  below it.
-/

namespace WindowSql

/-- A column that is seen where the source has a label: it is qualified by the label or by
nothing. -/
def SeenUnder (label : Option String) (name : String) : Prop :=
  (Text.qualified name).qualifier = "" ∨ some (Text.qualified name).qualifier = label

instance (label : Option String) (name : String) : Decidable (SeenUnder label name) :=
  inferInstanceAs (Decidable (_ ∨ _))

/-- The columns of an expression over promoted columns: those outside its calls and the names of its
calls, bare. -/
theorem Expr.forall_columns_overPromoted {P : String → Prop} {alias? : Call → Option String}
    {qualifiers : List String} {e : Expr} (h : ∀ c ∈ e.calls, ∃ name, alias? c = some name) :
    (∀ name ∈ ((e.replaceCalls alias?).unqualify qualifiers).columns, P name) ↔
      (∀ name ∈ e.outerColumns, P (bareName qualifiers name)) ∧
      ∀ c ∈ e.calls, ∀ name, alias? c = some name → P (bareName qualifiers name) := by
  induction e with
  | column name => simp [replaceCalls, unqualify_column, columns, outerColumns, calls]
  | literal v => simp [replaceCalls, unqualify, columns, outerColumns, calls]
  | call func args orderBy =>
    obtain ⟨name, hn⟩ := h ⟨func, args, orderBy⟩ (by simp [calls])
    simp [replaceCalls, hn, unqualify_column, columns, outerColumns, calls]
  | binary op l r ihl ihr =>
    have left := ihl fun c hc => h c (by simp [calls, hc])
    have right := ihr fun c hc => h c (by simp [calls, hc])
    simp only [replaceCalls, unqualify, columns, outerColumns, calls, List.forall_mem_append, left,
      right]
    exact and_and_and_comm
  | desc e ih => simpa only [replaceCalls, unqualify, columns, outerColumns, calls] using ih h

/-- Where a level is moved under a label, what it writes outside its calls stays in scope. -/
def Block.KeepsScope (label : String) (b : Block) : Prop :=
  b.filtersOnWindow = true → ∀ e ∈ b.exprs, ∀ name ∈ e.outerColumns,
    SeenUnder (some label) (bareName b.qualifiers name)

instance (label : String) (b : Block) : Decidable (b.KeepsScope label) :=
  inferInstanceAs (Decidable (_ → ∀ e ∈ b.exprs, ∀ name ∈ e.outerColumns, _))

namespace Statement

def innerQualifiers : Statement → List String
  | select _ => []
  | derived _ s => s.block.qualifiers

/-- A statement over promoted columns refers only to columns that are seen under its label. -/
def Scoped (stmt : Statement) : Prop :=
  stmt.readsPromoted = true → ∀ e ∈ stmt.block.exprs, ∀ name ∈ e.columns,
    SeenUnder stmt.block.label name

instance (stmt : Statement) : Decidable stmt.Scoped :=
  inferInstanceAs (Decidable (_ → ∀ e ∈ stmt.block.exprs, ∀ name ∈ e.columns, _))

/-- The names that calls were promoted under are in scope, as the outer block has them. -/
def NamesScoped (label : String) (stmt : Statement) : Prop :=
  ∀ name ∈ stmt.promoted.map Prod.fst, SeenUnder (some label) (bareName stmt.innerQualifiers name)

instance (label : String) (stmt : Statement) : Decidable (stmt.NamesScoped label) :=
  inferInstanceAs (Decidable (∀ name ∈ stmt.promoted.map Prod.fst, _))

theorem promoted_eq_nil {stmt : Statement} (h : stmt.readsPromoted = false) :
    stmt.promoted = [] := by
  cases stmt with
  | select b => rfl
  | derived b s =>
    have plain : ∀ item ∈ s.block.items, item.promoted = false := by
      simpa [readsPromoted] using h
    have skip (items : List SelectItem) (plain : ∀ item ∈ items, item.promoted = false) :
        items.foldl SelectItem.addPromoted [] = [] := by
      induction items with
      | nil => rfl
      | cons item rest ih =>
        rw [List.forall_mem_cons] at plain
        rw [List.foldl_cons, SelectItem.addPromoted, plain.1]
        exact ih plain.2
    exact skip _ plain

theorem scoped_of_not_readsPromoted {stmt : Statement} (h : stmt.readsPromoted = false)
    (label : String) : stmt.Scoped ∧ stmt.NamesScoped label := by
  refine ⟨fun marked => ?_, ?_⟩
  · rw [h] at marked
    cases marked
  · simp [NamesScoped, promoted_eq_nil h]

end Statement

namespace Setting

theorem PromotedUnder.forall_names {s : Setting} {stmt : Statement}
    {names : List (Call × String)} (h : s.PromotedUnder stmt names) (P : String → Prop) :
    (∀ c ∈ stmt.block.calls, ∀ name, lookupBy Call.same names c = some name → P name) ↔
      ∀ name ∈ names.map Prod.snd, P name := by
  constructor
  · intro all name hn
    obtain ⟨⟨c, name⟩, mem, rfl⟩ := List.mem_map.mp hn
    exact all c (h.key_mem_calls mem) name (h.lookup_key mem)
  · intro all c _ name found
    obtain ⟨key, mem, -⟩ := lookupBy_eq_some found
    exact all name (List.mem_map.mpr ⟨_, mem, rfl⟩)

/-- The outer block of a split refers to columns in scope exactly where the level that was split
keeps to them, and so do the names its calls were given. -/
theorem split_scoped_iff {s : Setting} {stmt r : Statement} (split : s.split stmt = .ok r)
    (filters : stmt.block.filtersOnWindow = true) :
    r.Scoped ↔ stmt.block.KeepsScope s.options.subqueryLabel ∧
      r.NamesScoped s.options.subqueryLabel := by
  have marked := (split_spec split filters).1
  obtain ⟨names, given, rfl⟩ := split_eq_ok.mp split
  have under := promotedNames_eq_ok given
  have named (e : Expr) (he : e ∈ stmt.block.exprs) :
      ∀ c ∈ e.calls, ∃ name, lookupBy Call.same names c = some name :=
    fun c hc => under.exists_name (Block.mem_calls.mpr ⟨e, he, hc⟩)
  have unswapped : (names.map Prod.swap).map Prod.fst = names.map Prod.snd := by
    simp [Function.comp_def]
  have outer : (stmt.block.promotedOuter names s.options.subqueryLabel).label =
      some s.options.subqueryLabel := rfl
  have inner : (stmt.block.promotedInner names).qualifiers = stmt.block.qualifiers := rfl
  rw [Statement.NamesScoped, Statement.promoted_derived _ _ _ under.named.nodup, unswapped,
    Statement.innerQualifiers, Statement.block_withBlock, inner, ← under.forall_names]
  simp only [Statement.Scoped, marked, forall_const, Statement.block_derived,
    Block.exprs_promotedOuter, outer, List.forall_mem_map, Block.overPromoted, Block.KeepsScope,
    filters]
  refine (forall₂_congr fun e he => Expr.forall_columns_overPromoted (named e he)).trans ?_
  simp only [forall₂_and, Block.mem_calls]
  refine and_congr_right fun _ => ?_
  constructor
  · rintro all c ⟨e, he, hc⟩
    exact all e he c hc
  · intro all e he c hc
    exact all c ⟨e, he, hc⟩

end Setting

namespace Statement

def levels : Statement → List Statement
  | select b => [select b]
  | derived b s => derived b s :: s.levels

theorem levels_eq_cons (stmt : Statement) : stmt.levels = stmt :: stmt.levels.tail := by
  cases stmt <;> rfl

theorem blocks_eq_cons (stmt : Statement) : stmt.blocks = stmt.block :: stmt.blocks.tail := by
  cases stmt <;> rfl

theorem levels_withBlock (b : Block) (stmt : Statement) :
    (stmt.withBlock b).levels = stmt.withBlock b :: stmt.levels.tail := by
  cases stmt <;> rfl

theorem readsPromoted_withBlock (b : Block) (stmt : Statement) :
    (stmt.withBlock b).readsPromoted = stmt.readsPromoted := by
  cases stmt <;> rfl

end Statement

namespace Setting

theorem split_levels {s : Setting} {stmt r : Statement} (split : s.split stmt = .ok r) :
    ∃ inner : Statement, inner.readsPromoted = stmt.readsPromoted ∧
      r.levels = r :: inner :: stmt.levels.tail := by
  obtain ⟨names, -, rfl⟩ := split_eq_ok.mp split
  refine ⟨stmt.withBlock (stmt.block.promotedInner names),
    Statement.readsPromoted_withBlock _ _, ?_⟩
  rw [Statement.levels, Statement.levels_withBlock]

/-- A run changes nothing in whether the level above reads promoted columns. -/
theorem Moves.readsPromoted_above {s : Setting} {q q' : Statement} (run : s.Moves q q')
    (b : Block) :
    (Statement.derived b q').readsPromoted = (Statement.derived b q).readsPromoted := by
  have flags : q'.block.items.map (·.promoted) = q.block.items.map (·.promoted) := by
    have seconds := congrArg (List.map Prod.snd) run.head.1
    simpa [Function.comp_def] using seconds
  have any (items : List SelectItem) :
      items.any (·.promoted) = (items.map (·.promoted)).any id := by simp
  rw [Statement.readsPromoted, Statement.readsPromoted, any, any, flags]

theorem Moves.scoped_head_iff {s : Setting} {stmt r : Statement} (run : s.Moves stmt r)
    (unmarked : stmt.Unmarked) :
    r.Scoped ↔ stmt.block.KeepsScope s.options.subqueryLabel ∧
      r.NamesScoped s.options.subqueryLabel := by
  have kept {q : Statement} (plain : stmt.block.filtersOnWindow = false)
      (unread : q.readsPromoted = false) :
      q.Scoped ↔ stmt.block.KeepsScope s.options.subqueryLabel ∧
        q.NamesScoped s.options.subqueryLabel := by
    obtain ⟨seen, names⟩ := q.scoped_of_not_readsPromoted unread s.options.subqueryLabel
    refine iff_of_true seen ⟨fun filters => ?_, names⟩
    rw [plain] at filters
    cases filters
  cases run with
  | keepSelect plain => exact kept plain rfl
  | splitSelect filters split => exact split_scoped_iff split filters
  | marked marked => simp [unmarked.readsPromoted] at marked
  | keepDerived unread source plain =>
    exact kept plain ((source.readsPromoted_above _).trans unread)
  | splitDerived _ _ filters split =>
    have head := split_scoped_iff split filters
    exact head

/-- All levels of a moved statement, once those below the outermost one are known. -/
theorem Moves.scoped_of_below {s : Setting} {stmt r : Statement} (run : s.Moves stmt r)
    (unmarked : stmt.Unmarked)
    (below : (∀ t ∈ r.levels.tail, t.Scoped) ↔
      (∀ b ∈ stmt.blocks.tail, b.KeepsScope s.options.subqueryLabel) ∧
      ∀ t ∈ r.levels.tail, t.NamesScoped s.options.subqueryLabel) :
    (∀ t ∈ r.levels, t.Scoped) ↔
      (∀ b ∈ stmt.blocks, b.KeepsScope s.options.subqueryLabel) ∧
      ∀ t ∈ r.levels, t.NamesScoped s.options.subqueryLabel := by
  rw [r.levels_eq_cons, stmt.blocks_eq_cons]
  simp only [List.forall_mem_cons, run.scoped_head_iff unmarked, below]
  exact and_and_and_comm

/-- Below the outermost level of a moved statement, every level refers only to columns in scope
exactly where the levels of the statement keep to them, and so do the names of their calls. -/
theorem Moves.scoped_below_iff {s : Setting} {stmt r : Statement} (run : s.Moves stmt r)
    (unmarked : stmt.Unmarked) :
    (∀ t ∈ r.levels.tail, t.Scoped) ↔
      (∀ b ∈ stmt.blocks.tail, b.KeepsScope s.options.subqueryLabel) ∧
      ∀ t ∈ r.levels.tail, t.NamesScoped s.options.subqueryLabel := by
  induction run with
  | keepSelect plain => simp [Statement.levels, Statement.blocks]
  | marked marked => simp [unmarked.readsPromoted] at marked
  | splitSelect filters split =>
    obtain ⟨inner, unread, levels⟩ := split_levels split
    obtain ⟨seen, names⟩ := inner.scoped_of_not_readsPromoted unread s.options.subqueryLabel
    simp [levels, Statement.levels, Statement.blocks, seen, names]
  | keepDerived _ source plain ih =>
    exact source.scoped_of_below unmarked.inner (ih unmarked.inner)
  | splitDerived unread source filters split ih =>
    obtain ⟨inner, unread', levels⟩ := split_levels split
    rw [source.readsPromoted_above, unread] at unread'
    obtain ⟨seen, names⟩ := inner.scoped_of_not_readsPromoted unread' s.options.subqueryLabel
    simp only [levels, Statement.levels, Statement.blocks, List.tail_cons, List.forall_mem_cons,
      seen, names, true_and]
    exact source.scoped_of_below unmarked.inner (ih unmarked.inner)

/-- The outermost level is checked after a run, so that it refers only to columns in scope. -/
theorem scoped_of_compile {s : Setting} {stmt : Statement} (unmarked : stmt.Unmarked) {c : Compiled}
    (h : s.compile stmt = .ok c) : c.statement.Scoped := by
  obtain ⟨-, -, moved, -, checked, _, -, rfl⟩ := compile_eq_ok.mp h
  intro marked e he name hn
  cases moved with
  | none => simp [unmarked.readsPromoted] at marked
  | some r =>
    cases r with
    | select b => cases marked
    | derived b inner =>
      have outer := Statement.checkOuter_derived_eq_ok.mp (checked _ rfl)
      exact (outer.sees e he name hn).qualifier

/-- **Columns in scope.** Every level of a compiled statement that reads promoted columns refers
only to columns that are unqualified or qualified by its own label, exactly where below the
outermost level each level that filters on window calls has no column outside its calls that is
qualified by something else than its source, and gives its calls names that are not qualified
either. -/
theorem compiled_scoped_iff (s : Setting) {stmt : Statement} (unmarked : stmt.Unmarked)
    {c : Compiled} (h : s.compile stmt = .ok c) :
    (∀ t ∈ c.statement.levels, t.Scoped) ↔
      (∀ b ∈ stmt.blocks.tail, b.KeepsScope s.options.subqueryLabel) ∧
      ∀ t ∈ c.statement.levels.tail, t.NamesScoped s.options.subqueryLabel := by
  have head := scoped_of_compile unmarked h
  obtain ⟨-, -, moved, run, -, _, -, rfl⟩ := compile_eq_ok.mp h
  rw [Statement.levels_eq_cons, List.forall_mem_cons, List.tail_cons,
    (moves_of_promote? run).scoped_below_iff unmarked]
  exact and_iff_right head

end Setting

/-- The games of the years in which they rank no higher than a bound, over a subquery. -/
def overTopGames (bound : Expr) : Statement :=
  .derived (selectOver (.column "G")) (topGames bound)

def overTopGamesMoved (bound : Expr) : Statement :=
  .derived (selectOver (.column "G")) (topGamesMoved bound)

/-- A column of the table of the subquery stays in scope. -/
theorem compiled_scoped_iff_ownColumn :
    (overTopGames (.column "batting.cap")).Unmarked ∧
    ∃ sql, Setting.postgres.compile (overTopGames (.column "batting.cap")) =
        .ok ⟨sql, "postgres", overTopGamesMoved (.column "cap"), true⟩ ∧
      ∀ t ∈ (overTopGamesMoved (.column "cap")).levels, t.Scoped := by
  have unmarked : (overTopGames (.column "batting.cap")).Unmarked := by decide
  have keeps : ∀ b ∈ (overTopGames (.column "batting.cap")).blocks.tail, b.KeepsScope "tmp" := by
    decide
  have names : ∀ t ∈ (overTopGamesMoved (.column "cap")).levels.tail, t.NamesScoped "tmp" := by
    decide
  exact ⟨unmarked, _, rfl,
    (Setting.postgres.compiled_scoped_iff unmarked rfl).mpr ⟨keeps, names⟩⟩

/-- A column of another table is refused over a filter that was moved, but is passed where such a
filter stands in a subquery. -/
theorem column_out_of_scope :
    Setting.postgres.compile (topGames (.column "other.cap")) =
      .error (.fault (.hiddenQualifier "other.cap" "other" (some "tmp"))) ∧
    (overTopGames (.column "other.cap")).Unmarked ∧
    ∃ sql, Setting.postgres.compile (overTopGames (.column "other.cap")) =
        .ok ⟨sql, "postgres", overTopGamesMoved (.column "other.cap"), true⟩ ∧
      ¬∀ t ∈ (overTopGamesMoved (.column "other.cap")).levels, t.Scoped :=
  ⟨rfl, by decide, _, rfl, by decide⟩

end WindowSql
