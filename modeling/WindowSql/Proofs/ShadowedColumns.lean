import WindowSql.Proofs.DistinctCalls
import WindowSql.Proofs.NameSearch
import WindowSql.Proofs.WindowNesting

/-!
# Shadowed columns

An inner block selects all of its source beside the calls it computes, so a name that it generates
must not be that of a column which its windows read:

* `Setting.Reads`, `Reads.cases`: the columns that a window reads are those of its call, of the
  partition and of the key of the context;
* `Statement.Sees`, `mem_taken_iff`: the names that the search for a fresh one goes by;
* `head?_names_of_free`: a first name that the search does not see is given;
* `shadowed_columns`: so a column is shadowed only where it is unseen, as the own name of a
  qualified column may be, and all columns of the context.
-/

namespace WindowSql

namespace Expr

theorem columns_stripDesc (e : Expr) : e.stripDesc.columns = e.columns := by
  induction e with
  | desc e ih => exact ih
  | _ => rfl

theorem columns_subset_columnsAll {es : List Expr} {e : Expr} (h : e ∈ es) :
    e.columns ⊆ columnsAll es := by
  induction es with
  | nil => cases h
  | cons first rest ih =>
    rw [columnsAll]
    rcases List.mem_cons.mp h with rfl | later
    · exact List.subset_append_left _ _
    · exact List.subset_append_of_subset_right _ (ih later)

theorem columns_of_mem_calls {e : Expr} {c : Call} (h : c ∈ e.calls) :
    c.toExpr.columns ⊆ e.columns := by
  induction e with
  | column name => cases h
  | literal v => cases h
  | call func args orderBy =>
    obtain rfl := List.mem_singleton.mp h
    exact List.Subset.refl _
  | binary op l r ihl ihr =>
    rw [columns]
    rcases List.mem_append.mp h with left | right
    · exact List.subset_append_of_subset_left _ (ihl left)
    · exact List.subset_append_of_subset_right _ (ihr right)
  | desc e ih => exact ih h

end Expr

theorem Call.columns_subset_toExpr {c : Call} {e : Expr} (h : e ∈ c.args ++ c.keys) :
    e.columns ⊆ c.toExpr.columns := by
  obtain ⟨func, args, orderBy⟩ := c
  cases orderBy with
  | none =>
    have argument : e ∈ args := by simpa [keys] using h
    exact Expr.columns_subset_columnsAll argument
  | some ks =>
    rcases List.mem_append.mp h with argument | key
    · exact List.subset_append_of_subset_left _ (Expr.columns_subset_columnsAll argument)
    · exact List.subset_append_of_subset_right _ (Expr.columns_subset_columnsAll key)

/-- A column of the partition of a context, or of the key that it orders by. -/
def Context.Names (context : Context) (column : String) : Prop :=
  (∃ names, Schema.partitionNames context.partition = .ok names ∧ column ∈ names) ∨
    ∃ k ∈ context.defaultOrder, column ∈ k.expr.columns

/-- A column stands in what is written in the window of a promoted call. -/
def Setting.Reads (s : Setting) (c : Call) (column : String) : Prop :=
  ∃ f category w, s.catalog.get c.func = .ok f ∧
    c.window f s.context true = .ok (category, w) ∧ ∃ e ∈ c.inside f w, column ∈ e.columns

/-- A window reads columns of its call and of the context. -/
theorem Setting.Reads.cases {s : Setting} {c : Call} {column : String} (h : s.Reads c column) :
    column ∈ c.toExpr.columns ∨ s.context.Names column := by
  obtain ⟨f, category, w, -, window, e, he, mem⟩ := h
  rcases Call.inside_cases window he with ⟨k, given, rfl⟩ | ⟨part, own, same⟩ | ⟨name, hn, rfl⟩
  · exact .inr (.inr ⟨k, Call.defaultOrder_of_contextKey? given, mem⟩)
  · refine .inl (Call.columns_subset_toExpr own ?_)
    rcases same with rfl | rfl
    · exact mem
    · rwa [part.columns_stripDesc] at mem
  · obtain rfl := List.mem_singleton.mp mem
    obtain ⟨-, -, -, -, partition⟩ := Call.window_eq_ok.mp window
    exact .inr (.inl ⟨w.partitionBy, mapError_eq_ok.mp partition, hn⟩)

/-- A name that the search for those of an inner statement goes by: the level selects it or refers
to it as it is written, or the source of the inner statement shows it. -/
def Statement.Sees (level inner : Statement) (name : String) : Prop :=
  name ∈ level.block.names ∨ (∃ e ∈ level.block.exprs, name ∈ e.columns) ∨
    ∃ source ∈ inner.source?, source.Shows name

theorem Statement.FreshUnder.not_sees {inner level : Statement} (h : inner.FreshUnder level)
    {name : String} (mem : name ∈ inner.block.names) : ¬level.Sees inner name := by
  rintro (selected | ⟨e, he, referred⟩ | ⟨source, hs, shown⟩)
  · exact h.selected name mem selected
  · exact h.referred name mem e he referred
  · exact h.shown name mem source hs shown

theorem Statement.mem_taken_iff {source level : Statement} (same : source.block = level.block)
    (b : Block) {name : String} :
    name ∈ source.block.usedNames ++ source.sourceNames ↔
      level.Sees (source.withBlock b) name := by
  rw [List.mem_append, Block.usedNames, List.mem_append, List.mem_flatMap, mem_sourceNames_iff,
    Sees, source?_withBlock, same, or_assoc]

namespace Setting
variable {s : Setting} {source level : Statement} {names : List (Call × String)}

theorem nameCalls_of_promotedNames (h : s.promotedNames source = .ok names) :
    s.nameCalls ⟨source.block.usedNames ++ source.sourceNames, []⟩
      (source.block.distinctCalls.map (·.1)) = .ok names := by
  simp only [promotedNames, bind_eq_ok, pure_eq_ok, Except.ok.injEq] at h
  obtain ⟨_, -, names', given, _, -, _, -, _, -, rfl⟩ := h
  exact given

/-- The first call has the first name of its function, if that is not taken. -/
theorem head?_names_of_free {supply : NameSupply} {calls : List Call} {c : Call}
    {f : WindowFunction} {name : String} (h : s.nameCalls supply calls = .ok names)
    (first : (names.map Prod.fst).head? = some c) (known : s.catalog.get c.func = .ok f)
    (named : s.options.columnName s.objects f.stem (supply.counter f.stem) = .ok name)
    (free : name ∉ supply.taken) : (names.map Prod.snd).head? = some name := by
  cases calls with
  | nil =>
    cases h
    cases first
  | cons c' rest =>
    simp only [nameCalls, bind_eq_ok, lift_eq_ok, mapError_eq_ok, pure_eq_ok,
      Except.ok.injEq] at h
    obtain ⟨f', known', given, run, _, -, rfl⟩ := h
    obtain rfl : c' = c := by simpa using first
    obtain rfl := Except.ok.inj (known.symm.trans known')
    rw [NameSupply.next_of_free named free] at run
    cases run
    rfl

/-- The columns of a promoted call are seen as they are written. -/
theorem PromotedUnder.sees_column (under : s.PromotedUnder source names)
    (same : source.block = level.block) (inner : Statement) {c : Call}
    (mem : c ∈ names.map Prod.fst) {column : String} (h : column ∈ c.toExpr.columns) :
    level.Sees inner column := by
  obtain ⟨e, he, hc⟩ := Block.mem_calls.mp (under.keys_subset mem)
  exact .inr (.inl ⟨e, same ▸ he, Expr.columns_of_mem_calls hc h⟩)

/-- **Shadowed columns.** Wherever a run over a statement without promoted items has put a level
over promoted columns, these were split from a filtering level. A column that their windows read has
one of the generated names as its own only if the search did not see that name: the column is
qualified in its call, or is one of the context, and the level has no other use for the name. And
the first name of the first call is given wherever the search does not see it, whatever the windows
read. -/
theorem shadowed_columns (s : Setting) {stmt : Statement} (unmarked : stmt.Unmarked)
    {moved : Option Statement} (h : s.promote? stmt = .ok moved) {outer : Block}
    {inner : Statement} (built : .derived outer inner ∈ (moved.getD stmt).levels)
    (reads : (Statement.derived outer inner).readsPromoted = true) :
    ∃ level ∈ stmt.levels, level.block.filtersOnWindow = true ∧
      s.promote? level = .ok (some (.derived outer inner)) ∧
      (∀ c ∈ inner.block.calls, ∀ column, s.Reads c column →
        (Text.qualified column).column ∈ inner.block.names →
          ¬level.Sees inner (Text.qualified column).column ∧
          (column ∈ c.toExpr.columns ∧ (Text.qualified column).column ≠ column ∨
            s.context.Names column)) ∧
      ∀ c f name, inner.block.calls.head? = some c → s.catalog.get c.func = .ok f →
        s.options.columnName s.objects f.stem 1 = .ok name → ¬level.Sees inner name →
          inner.block.names.head? = some name := by
  obtain ⟨level, mem, filters, run⟩ := (mem_levels_iff_split unmarked h).mp ⟨built, reads⟩
  have unread : level.readsPromoted = false := (unmarked.level mem).readsPromoted
  obtain ⟨source, r, moved', split, same, -⟩ := exists_split_of_promote? unread filters run
  obtain rfl := Option.some.inj moved'
  obtain ⟨names, given, halves⟩ := split_eq_ok.mp split
  rw [same] at halves
  obtain ⟨-, rfl⟩ := Statement.derived.inj halves
  have under := promotedNames_eq_ok given
  refine ⟨level, mem, filters, run, ?_, ?_⟩
  · intro c hc column read clash
    have unseen := (under.freshUnder same).not_sees clash
    refine ⟨unseen, ?_⟩
    rw [Statement.block_withBlock, Block.calls_promotedInner] at hc
    rcases read.cases with own | context
    · refine .inl ⟨own, fun bare => unseen ?_⟩
      rw [bare]
      exact under.sees_column same _ hc own
    · exact .inr context
  · intro c f name first known named free
    rw [Statement.block_withBlock, Block.calls_promotedInner] at first
    rw [Statement.block_withBlock, Block.names_promotedInner]
    refine head?_names_of_free (nameCalls_of_promotedNames given) first known named fun taken => ?_
    exact free ((Statement.mem_taken_iff same _).mp taken)

/-- The years of the two best ranks of a player by a column. -/
def topRanked (column : String) : Statement :=
  .select
    { table := some "batting"
      predicate := some (.binary .le (minRank column) (.literal (.int 2)))
      isFilter := true }

def topRankedMoved (column : String) : Statement :=
  .derived
    { label := some "tmp"
      predicate := some (.binary .le (.column "rank_1") (.literal (.int 2)))
      isFilter := true }
    (.select
      { items := [⟨"rank_1", minRank column, true⟩], selectAll := true, table := some "batting" })

/-- A qualified column is shadowed, and is not seen under its own name. -/
theorem shadowed_columns_qualified :
    (topRanked "batting.rank_1").Unmarked ∧
    postgres.promote? (topRanked "batting.rank_1") =
      .ok (some (topRankedMoved "batting.rank_1")) ∧
    postgres.Reads (rankOf "batting.rank_1") "batting.rank_1" ∧
    (Text.qualified "batting.rank_1").column = "rank_1" ∧
    ∃ outer inner, topRankedMoved "batting.rank_1" = .derived outer inner ∧
      inner.block.names = ["rank_1"] ∧
      ∃ level ∈ (topRanked "batting.rank_1").levels, ¬level.Sees inner "rank_1" := by
  have unmarked : (topRanked "batting.rank_1").Unmarked := by decide
  have run : postgres.promote? (topRanked "batting.rank_1") =
      .ok (some (topRankedMoved "batting.rank_1")) := rfl
  have read : postgres.Reads (rankOf "batting.rank_1") "batting.rank_1" :=
    ⟨_, _, _, rfl, rfl, .column "batting.rank_1", List.mem_cons_self, List.mem_cons_self⟩
  have bare : (Text.qualified "batting.rank_1").column = "rank_1" := by decide
  obtain ⟨level, mem, -, -, clash, -⟩ :=
    shadowed_columns postgres unmarked run List.mem_cons_self rfl
  have unseen := (clash _ List.mem_cons_self _ read (bare ▸ List.mem_cons_self)).1
  rw [bare] at unseen
  exact ⟨unmarked, run, read, bare, _, _, rfl, rfl, level, mem, unseen⟩

def afterAtBats : Statement :=
  .select
    { table := some "batting"
      predicate := some (.binary .gt previousAtBats.toExpr (.literal (.int 0)))
      isFilter := true }

/-- A generated name is that of a column which the window beside it reads: of a qualified one, of a
column of the partition, and of the column that the context orders by. -/
theorem generated_name_shadows :
    (∃ outer inner, postgres.promote? (topRanked "batting.rank_1") =
      .ok (some (.derived outer inner)) ∧ inner.block.names = ["rank_1"] ∧
      ∃ c ∈ inner.block.calls, ∃ column, postgres.Reads c column ∧
        (Text.qualified column).column = "rank_1") ∧
    (∃ outer inner, { postgres with context := { partition := [.str "rank_1"] } }.promote?
        (topRanked "G") = .ok (some (.derived outer inner)) ∧ inner.block.names = ["rank_1"] ∧
      ∃ c ∈ inner.block.calls,
        { postgres with context := { partition := [.str "rank_1"] } }.Reads c "rank_1") ∧
    ∃ outer inner, (orderedBy ⟨.column "lag_1", .asc⟩).promote? afterAtBats =
      .ok (some (.derived outer inner)) ∧ inner.block.names = ["lag_1"] ∧
      ∃ c ∈ inner.block.calls, (orderedBy ⟨.column "lag_1", .asc⟩).Reads c "lag_1" := by
  refine ⟨⟨_, _, rfl, rfl, _, List.mem_cons_self, "batting.rank_1", ?_, by decide⟩,
    ⟨_, _, rfl, rfl, _, List.mem_cons_self, ?_⟩, _, _, rfl, rfl, _, List.mem_cons_self, ?_⟩
  · exact ⟨_, _, _, rfl, rfl, .column "batting.rank_1", List.mem_cons_self, List.mem_cons_self⟩
  · exact ⟨_, _, _, rfl, rfl, .column "rank_1",
      List.mem_cons_of_mem _ List.mem_cons_self, List.mem_cons_self⟩
  · exact ⟨_, _, _, rfl, rfl, .column "lag_1",
      List.mem_cons_of_mem _ List.mem_cons_self, List.mem_cons_self⟩

end Setting

end WindowSql
