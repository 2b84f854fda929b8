import WindowSql.Proofs.Compilation
import WindowSql.Proofs.DescPlacement
import WindowSql.Proofs.FilterLevels
import WindowSql.Proofs.PromotedColumns

/-!
# Checked statements

What can still go wrong with a statement that follows the rules:

* `Statement.Sound`, `sound_of_check`: what the check leaves at every level, and `Moves.sound`: that
  a run keeps it;
* `split_failsOnly`, `promote?_failsOnly`: moving the filters fails for a window or for a name;
* `statementText_failsOnly_of_sound`: writing what came of that fails for a window; either may fail
  for an integer beyond the limit;
* `checked_failsOnly`: both, for a catalog of built-in functions and rolling aggregates.
-/

namespace WindowSql

def Block.Sound (catalog : Catalog) (b : Block) : Prop := ∀ e ∈ b.exprs, e.Sound catalog

theorem Block.Sound.calls {catalog : Catalog} {b : Block} (h : b.Sound catalog) :
    ∀ c ∈ b.calls, c.Sound catalog := by
  intro c hc
  obtain ⟨e, he, hc⟩ := Block.mem_calls.mp hc
  exact (h e he).calls c hc

theorem Block.sound_of_check {catalog : Catalog} {b : Block} (h : b.check catalog = .ok ()) :
    b.Sound catalog := by
  rw [Block.check] at h
  split at h
  · cases h
  · simp only [check_bind_eq_ok, forM_eq_ok] at h
    obtain ⟨items, predicate⟩ := h
    intro e he
    rcases List.mem_append.mp he with he | he
    · obtain ⟨item, hi, rfl⟩ := List.mem_map.mp he
      exact Expr.sound_of_check (items item hi)
    · exact Expr.sound_of_check (predicate e he)

namespace Statement

/-- Every block is sound, and the innermost one reads from a table. -/
def Sound (catalog : Catalog) : Statement → Prop
  | select b => b.Sound catalog ∧ ∃ name, b.table = some name ∧ name.isEmpty = false
  | derived b s => b.Sound catalog ∧ s.Sound catalog

theorem Sound.block {catalog : Catalog} {stmt : Statement} (h : stmt.Sound catalog) :
    stmt.block.Sound catalog := by
  cases stmt <;> exact h.1

theorem Sound.of_mem_blocks {catalog : Catalog} {stmt : Statement} (h : stmt.Sound catalog) :
    ∀ b ∈ stmt.blocks, b.Sound catalog := by
  induction stmt with
  | select b => exact List.forall_mem_singleton.mpr h.1
  | derived b s ih => exact List.forall_mem_cons.mpr ⟨h.1, ih h.2⟩

theorem Sound.table {catalog : Catalog} {stmt : Statement} (h : stmt.Sound catalog) :
    ∃ name, stmt.innermost.table = some name ∧ name.isEmpty = false := by
  induction stmt with
  | select b => exact h.2
  | derived b s ih => exact ih h.2

theorem check_select_eq_ok {catalog : Catalog} {b : Block} :
    (select b).check catalog = .ok () ↔
      b.checkTable = .ok () ∧ b.check catalog = .ok () := by
  rw [check, check_bind_eq_ok]

theorem check_derived_eq_ok {catalog : Catalog} {b : Block} {stmt : Statement} :
    (derived b stmt).check catalog = .ok () ↔
      b.checkNoTable = .ok () ∧ stmt.check catalog = .ok () ∧ b.check catalog = .ok () := by
  simp only [check, check_bind_eq_ok]

/-- A block over one statement passes the check over another one that passes it as well. -/
theorem check_over {catalog : Catalog} {b : Block} {q q' : Statement}
    (h : (derived b q).check catalog = .ok ())
    (below : q.check catalog = .ok () → q'.check catalog = .ok ()) :
    (derived b q').check catalog = .ok () := by
  obtain ⟨noTable, source, block⟩ := check_derived_eq_ok.mp h
  exact check_derived_eq_ok.mpr ⟨noTable, below source, block⟩

theorem sound_of_check {catalog : Catalog} {stmt : Statement}
    (h : stmt.check catalog = .ok ()) : stmt.Sound catalog := by
  induction stmt with
  | select b =>
    obtain ⟨table, block⟩ := check_select_eq_ok.mp h
    refine ⟨Block.sound_of_check block, ?_⟩
    unfold Block.checkTable at table
    split at table
    · cases table
    · rename_i name named
      refine ⟨name, named, ?_⟩
      -- a name that is empty has nothing but blanks
      by_contra empty
      simp only [Bool.not_eq_false, String.isEmpty_iff] at empty
      simp [empty] at table
  | derived b s ih =>
    obtain ⟨-, inner, block⟩ := check_derived_eq_ok.mp h
    exact ⟨Block.sound_of_check block, ih inner⟩

end Statement

namespace Setting

/-- No call and no `desc` is left in the outer block of a split. -/
theorem PromotedUnder.scalar_outer {s : Setting} {stmt : Statement} {names : List (Call × String)}
    (under : s.PromotedUnder stmt names) (sound : stmt.block.Sound s.catalog) (label : String) :
    ∀ e ∈ (stmt.block.promotedOuter names label).exprs, e.Scalar := by
  intro e he
  rw [Block.exprs_promotedOuter] at he
  obtain ⟨e, mem, rfl⟩ := List.mem_map.mp he
  exact ⟨((sound e mem).noDesc.replaceCalls _).unqualify _, under.calls_overPromoted mem⟩

/-- The blocks that a split makes of a sound one are sound. -/
theorem sound_of_split {s : Setting} {stmt r : Statement} (h : stmt.Sound s.catalog)
    (split : s.split stmt = .ok r) : r.Sound s.catalog := by
  obtain ⟨names, given, rfl⟩ := split_eq_ok.mp split
  have under := promotedNames_eq_ok given
  have outer : (stmt.block.promotedOuter names s.options.subqueryLabel).Sound s.catalog := by
    intro e he
    obtain ⟨noDesc, noCalls⟩ := under.scalar_outer h.block _ e he
    exact ⟨noDesc, by simp [noCalls]⟩
  have inner : (stmt.block.promotedInner names).Sound s.catalog := by
    intro e he
    rw [Block.exprs_promotedInner] at he
    obtain ⟨⟨c, name⟩, mem, rfl⟩ := List.mem_map.mp he
    refine ⟨trivial, fun c' hc' => ?_⟩
    obtain rfl := List.mem_singleton.mp hc'
    exact h.block.calls _ (under.key_mem_calls mem)
  refine ⟨outer, ?_⟩
  cases stmt with
  | select b => exact ⟨inner, h.2⟩
  | derived b s => exact ⟨inner, h.2⟩

theorem Moves.sound {s : Setting} {stmt r : Statement} (run : s.Moves stmt r)
    (h : stmt.Sound s.catalog) : r.Sound s.catalog := by
  induction run with
  | keepSelect | marked => exact h
  | splitSelect _ split => exact sound_of_split h split
  | keepDerived _ _ _ ih =>
    obtain ⟨block, source⟩ := h
    exact ⟨block, ih source⟩
  | splitDerived _ _ _ split ih =>
    obtain ⟨block, source⟩ := h
    have above : (Statement.derived _ _).Sound s.catalog := ⟨block, ih source⟩
    exact sound_of_split above split

end Setting

theorem Expr.callDepth_pos {e : Expr} {c : Call} (hc : c ∈ e.calls) : 0 < e.callDepth := by
  induction e with
  | column name => cases hc
  | literal v => cases hc
  | call func args orderBy => cases orderBy <;> simp [callDepth]
  | binary op l r ihl ihr =>
    rw [callDepth]
    rcases List.mem_append.mp hc with left | right
    · exact Nat.lt_of_lt_of_le (ihl left) (Nat.le_max_left ..)
    · exact Nat.lt_of_lt_of_le (ihr right) (Nat.le_max_right ..)
  | desc e ih => exact ih hc

/-- For a call of an expression there is a level of calls, whatever other levels there are. -/
theorem Expr.exists_levels {e : Expr} {c : Call} (hc : c ∈ e.calls) (more : Nat) :
    ∃ levels, e.callDepth + more = levels + 1 := by
  have positive := callDepth_pos hc
  exact Nat.exists_eq_succ_of_ne_zero (by omega)

namespace Setting
variable {s : Setting} (ranks : ∀ f ∈ s.catalog.functions, f.RanksByKey)
  (ordered : s.context.OrderedByColumn)

include ranks ordered

theorem windowColumn_failsOnly {c : Call} (h : c.Sound s.catalog) (inWindow : Bool) :
    FailsOnly (Failure.OfWriting s.limits s.dialect s.context) (s.windowColumn inWindow c) := by
  obtain ⟨f, known, -⟩ := h.known
  rw [windowColumn, known]
  exact h.windowColumn_failsOnly (fun e he => he.sql_failsOnly _ _ _) ordered known
    (ranks f (Catalog.mem_of_get known)) inWindow

theorem text_failsOnly_of_sound {e : Expr} (h : e.Sound s.catalog) (inWindow : Bool) :
    FailsOnly (Failure.OfWriting s.limits s.dialect s.context) (s.text inWindow e) := by
  refine Expr.sql_failsOnly (fun c hc => ?_)
    (fun v _ => (s.dialect.literal_failsOnly s.limits v).imp fun _ => .inr) (.inl h.noDesc)
  have sound := h.calls c hc
  obtain ⟨f, known, -⟩ := sound.known
  obtain ⟨levels, step⟩ := Expr.exists_levels hc s.context.orderDepth
  rw [step, callText, known, lift_ok, ok_bind]
  refine FailsOnly.bind ?_ fun column _ => .ok column.sql
  exact sound.windowColumn_failsOnly (fun e he => he.sql_failsOnly _ _ _) ordered known
    (ranks f (Catalog.mem_of_get known)) inWindow

omit ranks ordered in
theorem nameCalls_failsOnly {calls : List Call} (h : ∀ c ∈ calls, c.Sound s.catalog)
    (supply : NameSupply) :
    FailsOnly (fun e => ∃ f, e = .naming f) (s.nameCalls supply calls) := by
  induction calls generalizing supply with
  | nil => exact .ok _
  | cons c rest ih =>
    obtain ⟨first, others⟩ := List.forall_mem_cons.mp h
    obtain ⟨f, known, -⟩ := first.known
    rw [nameCalls, known, lift_ok, ok_bind]
    refine FailsOnly.bind (.mapError fun f _ => ⟨f, rfl⟩) fun named _ => ?_
    exact (ih others named.2).bind fun names _ => .ok _

end Setting

/-- A failure of moving filters: of a name, or of writing a window. -/
def Failure.OfMove (l : Limits) (d : Dialect) (context : Context) (e : Failure) : Prop :=
  (∃ f, e = .naming f) ∨ e.OfWriting l d context

namespace Setting
variable {s : Setting} (ranks : ∀ f ∈ s.catalog.functions, f.RanksByKey)
  (ordered : s.context.OrderedByColumn)

include ranks ordered

theorem split_failsOnly {stmt : Statement} (h : stmt.Sound s.catalog) :
    FailsOnly (Failure.OfMove s.limits s.dialect s.context) (s.split stmt) := by
  have sound (p : Call × Bool) (hp : p ∈ stmt.block.windowCalls) : p.1.Sound s.catalog :=
    h.block.calls p.1 (Block.map_fst_windowCalls _ ▸ List.mem_map_of_mem hp)
  have distinct (c : Call) (hc : c ∈ stmt.block.distinctCalls.map Prod.fst) : c.Sound s.catalog :=
    h.block.calls c (Block.distinctCalls_subset hc)
  have unnested : (stmt.block.windowCalls.forM fun p => p.1.checkNested) = .ok () :=
    forM_eq_ok.mpr fun p hp => p.1.checkNested_eq_ok.mpr (sound p hp).unnested
  refine split_failsOnly_of_windows ?_ ?_ (fun p hp => ?_) fun p _ => ?_
  · rw [unnested]
    exact .ok ()
  · exact (nameCalls_failsOnly distinct _).imp fun _ => .inl
  · have column := windowColumn_failsOnly ranks ordered (distinct p.1 (List.mem_map_of_mem hp)) p.2
    exact column.imp fun _ => .inr
  · exact (p.1.toExpr.describe_failsOnly s.limits).imp fun _ refused => .inr (.inr refused)

theorem promote?_failsOnly {stmt : Statement} (h : stmt.Sound s.catalog) :
    FailsOnly (Failure.OfMove s.limits s.dialect s.context) (s.promote? stmt) :=
  promote?_failsOnly_of_split (fun h => h.2) (fun h run => ⟨h.1, run.sound h.2⟩)
    (split_failsOnly ranks ordered) h

theorem statementText_failsOnly_of_sound {stmt : Statement} (h : stmt.Sound s.catalog)
    (plain : ∀ b ∈ stmt.blocks, b.filtersOnWindow = false) :
    FailsOnly (Failure.OfWriting s.limits s.dialect s.context) (s.statementText stmt) := by
  refine s.statementText_failsOnly_of_text ?_ ?_ ?_
  · intro b hb e he inWindow
    exact text_failsOnly_of_sound ranks ordered (h.of_mem_blocks b hb e he) inWindow
  · obtain ⟨name, named, nonempty⟩ := h.table
    obtain ⟨t, ht⟩ := s.tableText_of_named named nonempty
    exact .of_eq_ok ht
  · intro b hb filters
    simp [plain b hb] at filters

end Setting

def OrderSpec.ByName : OrderSpec → Prop
  | key _ => False
  | _ => True

theorem OrderSpec.ByName.column_of_orderKey {spec : OrderSpec} (named : spec.ByName) {k : OrderKey}
    (h : spec.orderKey = .ok k) : ∃ name, k.expr = .column name := by
  cases spec with
  | column name =>
    cases h
    exact ⟨name, rfl⟩
  | key k => exact named.elim
  | entries items =>
    simp only [orderKey] at h
    split at h
    · cases h
    · rename_i c d _
      split at h
      · cases h
      · rename_i e column
        split at h
        · cases h
        · cases h
          cases c with
          | str name =>
            cases column
            exact ⟨name, rfl⟩
          | _ => cases column
  | value j => cases h

namespace Context

theorem orderedByColumn_of_ofSpecs {partition : List Json} {specs : List OrderSpec}
    {profile : Profile} {context : Context} (named : ∀ spec ∈ specs, spec.ByName)
    (h : ofSpecs partition specs profile = .ok context) : context.OrderedByColumn := by
  rw [ofSpecs, bind_eq_ok] at h
  obtain ⟨keys, read, h⟩ := h
  intro k hk
  have first : k ∈ keys := by
    split at h
    · cases h
      cases hk
    · cases h
      cases hk
      exact List.mem_cons_self
    · cases h
  obtain ⟨spec, hs, key⟩ := exists_of_mem_of_mapM_eq_ok read first
  exact (named spec hs).column_of_orderKey key

theorem orderedByColumn_of_make {grouping : Grouping} {arrangement : Arrangement}
    {profile : Profile} {context : Context} (named : ∀ spec ∈ arrangement.specs, spec.ByName)
    (h : make grouping arrangement profile = .ok context) : context.OrderedByColumn :=
  orderedByColumn_of_ofSpecs named h

theorem orderedByColumn_of_arrange {c context : Context} {column direction : Json}
    (h : c.arrange column direction = .ok context) : context.OrderedByColumn := by
  obtain ⟨k, key, rfl⟩ := map_eq_ok.mp h
  rintro _ ⟨⟩
  have named : (OrderSpec.entries [column, direction]).ByName := trivial
  exact named.column_of_orderKey key

end Context

/-- Every function besides the built-in ones is a rolling aggregate. -/
def Catalog.ExtendsByRolling (catalog : Catalog) : Prop :=
  ∀ f ∈ catalog.extra, ∃ name aggregate preceding following,
    f = .rolling name aggregate preceding following

theorem Catalog.ExtendsByRolling.ranksByKey {catalog : Catalog} (h : catalog.ExtendsByRolling) :
    ∀ f ∈ catalog.functions, f.RanksByKey := by
  have known : ∀ f ∈ WindowFunction.builtin,
      f.category = .ranking → f.orderSource ≠ .explicitOrdering := by decide
  intro f hf
  rcases List.mem_append.mp hf with builtin | extra
  · exact known f builtin
  · obtain ⟨name, aggregate, preceding, following, rfl⟩ := h f extra
    exact nofun

namespace Setting

/-- **The check is a gate.** With the built-in functions and any rolling aggregates, and an ordering
of the context that is by a column, a statement without promoted items that passes the check fails
from then on for a window alone, or for an integer beyond the limit: its filters are moved but for a
name that cannot be made, and what came of that is written. No call is unknown or nested, no `desc`
is out of place, no source is missing, no filter is left to move, and no two partitions stand side
by side. -/
theorem checked_failsOnly (s : Setting) (functions : s.catalog.ExtendsByRolling)
    (ordered : s.context.OrderedByColumn) {stmt : Statement} (unmarked : stmt.Unmarked)
    (checked : stmt.check s.catalog = .ok ()) :
    FailsOnly (Failure.OfMove s.limits s.dialect s.context) (s.promote? stmt) ∧
    ∀ moved, s.promote? stmt = .ok moved →
      FailsOnly (Failure.OfWriting s.limits s.dialect s.context)
        (s.statementText (moved.getD stmt)) := by
  have ranks := functions.ranksByKey
  have sound := Statement.sound_of_check checked
  refine ⟨promote?_failsOnly ranks ordered sound, fun moved run => ?_⟩
  have moves := moves_of_promote? run
  exact statementText_failsOnly_of_sound ranks ordered (moves.sound sound) (moves.levels unmarked).1

end Setting

/-- Each player by year, the last one first. -/
def byYearDown : Context :=
  { partition := [.str "playerID"]
    defaultOrder := some ⟨.column "yearID", .desc⟩ }

/-- PostgreSQL with a mean over three rows. -/
def Setting.withRollMean : Setting :=
  { dialect := .postgres
    context := byYearDown
    catalog := ⟨[.rolling "roll_mean3" "avg" (some 1) (some 1)]⟩
    options := default }

/-- The mean of the last two years by games, over the years with the most games. -/
def rollMeanOverTop : Statement :=
  .derived (selectOver (.call "roll_mean3" [.column "G"] (some [.desc (.column "yearID")])))
    (.select
      { table := some "batting"
        predicate := some
          (.binary .le (.call "min_rank" [.desc (.column "G")] none) (.literal (.int 2)))
        isFilter := true })

/-- The context is one that is given by a name and a direction. The ranking is ordered by a `desc`
argument and the mean by a `desc` key, and neither fails. -/
theorem Setting.checked_failsOnly_rollMean :
    Context.make (.one "playerID") (.several [.entries [.str "yearID", .str "desc"]]) {} =
      .ok withRollMean.context ∧
    withRollMean.catalog.ExtendsByRolling ∧ withRollMean.context.OrderedByColumn ∧
    rollMeanOverTop.Unmarked ∧ rollMeanOverTop.check withRollMean.catalog = .ok () ∧
    FailsOnly (Failure.OfMove withRollMean.limits withRollMean.dialect withRollMean.context)
      (withRollMean.promote? rollMeanOverTop) ∧
    ∀ moved, withRollMean.promote? rollMeanOverTop = .ok moved →
      FailsOnly
        (Failure.OfWriting withRollMean.limits withRollMean.dialect withRollMean.context)
        (withRollMean.statementText (moved.getD rollMeanOverTop)) := by
  have made : Context.make (.one "playerID")
      (.several [.entries [.str "yearID", .str "desc"]]) {} = .ok withRollMean.context := rfl
  have ordered : withRollMean.context.OrderedByColumn :=
    Context.orderedByColumn_of_make (by simp [Arrangement.specs, OrderSpec.ByName]) made
  have functions : withRollMean.catalog.ExtendsByRolling := by
    intro f hf
    exact ⟨_, _, _, _, List.mem_singleton.mp hf⟩
  have unmarked : rollMeanOverTop.Unmarked := by decide
  have checked : rollMeanOverTop.check withRollMean.catalog = .ok () := rfl
  exact ⟨made, functions, ordered, unmarked, checked,
    withRollMean.checked_failsOnly functions ordered unmarked checked⟩

end WindowSql
