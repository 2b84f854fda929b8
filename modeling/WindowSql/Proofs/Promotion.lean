import WindowSql.Proofs.Calls
import WindowSql.Proofs.FreshNames

/-!
# Runs of the promotion

What moving filters over subqueries does to a statement, level by level:

* `split_eq_ok`, `promotedNames_eq_ok`: what a split block is made of, and what its names satisfy;
* `Moves`: one rule for each way in which a level is treated; every run follows these rules
  (`moves_of_promote?`), so a fact about all runs has one case per rule;
* `promote?_eq_none_iff`, `Moves.settled`: where nothing is moved, and that nothing is left to move
  after a run;
* `exists_names_of_promote?`: the one way in which a level that filters on window calls is treated.
-/

namespace WindowSql

namespace Block

/-- The outermost calls of the select list and the predicate, in order. -/
def calls (b : Block) : List Call := b.exprs.flatMap (·.calls)

theorem mem_calls {b : Block} {c : Call} : c ∈ b.calls ↔ ∃ e ∈ b.exprs, c ∈ e.calls :=
  List.mem_flatMap

theorem map_fst_windowCalls (b : Block) : b.windowCalls.map Prod.fst = b.calls := by
  simp [windowCalls, calls, exprs, List.map_flatMap, List.flatMap_map, Function.comp_def]

theorem map_fst_distinctCalls (b : Block) :
    b.distinctCalls.map Prod.fst = distinctKeys Call.same b.calls := by
  have run (l : List (Call × Bool)) (pairs : List (Call × Bool)) :
      (l.foldl (fun pairs p =>
        upsertBy Call.same p.1 (fun old => old.getD false || p.2) pairs) pairs).map Prod.fst =
        (l.map Prod.fst).foldl (addKey Call.same) (pairs.map Prod.fst) := by
    induction l generalizing pairs with
    | nil => rfl
    | cons p rest ih => rw [List.foldl_cons, ih, map_fst_upsertBy]; rfl
  rw [← map_fst_windowCalls]
  exact run b.windowCalls []

theorem distinctCalls_subset {b : Block} : b.distinctCalls.map Prod.fst ⊆ b.calls := by
  intro c hc
  rw [map_fst_distinctCalls] at hc
  exact mem_of_mem_distinctKeys Call.same_self hc

theorem exists_call_of_filtersOnWindow {b : Block} (h : b.filtersOnWindow = true) :
    ∃ p, b.predicate = some p ∧ ∃ c, c ∈ p.calls := by
  unfold filtersOnWindow at h
  cases hp : b.predicate with
  | none => simp [hp] at h
  | some p =>
    simp only [hp, Expr.containsCall, Bool.not_eq_true', List.isEmpty_eq_false_iff_exists_mem] at h
    exact ⟨p, rfl, h⟩

theorem calls_predicate_subset {b : Block} {p : Expr} (hp : b.predicate = some p) :
    p.calls ⊆ b.calls :=
  fun _ hc => mem_calls.mpr ⟨p, by simp [exprs, hp], hc⟩

end Block

namespace Setting

/-- What is known of the names under which the calls of a statement are promoted. -/
structure PromotedUnder (s : Setting) (stmt : Statement) (names : List (Call × String)) :
    Prop where
  named : NamesFor (distinctKeys Call.same stmt.block.calls)
    (stmt.block.usedNames ++ stmt.sourceNames) names
  unnested : ∀ c ∈ stmt.block.calls, c.nested? = none
  columns : ∀ p ∈ stmt.block.distinctCalls, ∃ w, s.windowColumn p.2 p.1 = .ok w

theorem promotedNames_eq_ok {s : Setting} {stmt : Statement} {names : List (Call × String)}
    (h : s.promotedNames stmt = .ok names) : s.PromotedUnder stmt names := by
  simp only [promotedNames, bind_eq_ok, lift_eq_ok, pure_eq_ok, Except.ok.injEq] at h
  obtain ⟨_, unnested, names', given, columns, resolved, _, -, _, -, rfl⟩ := h
  refine ⟨?_, ?_, ?_⟩
  · have run := nameCalls_eq_ok given
    rwa [Block.map_fst_distinctCalls] at run
  · intro c hc
    rw [← Block.map_fst_windowCalls] at hc
    obtain ⟨p, hp, rfl⟩ := List.mem_map.mp hc
    exact p.1.checkNested_eq_ok.mp (forM_eq_ok.mp unnested p hp)
  · intro p hp
    obtain ⟨w, -, column⟩ := exists_of_mapM_eq_ok resolved hp
    exact ⟨w, column⟩

namespace PromotedUnder
variable {s : Setting} {stmt : Statement} {names : List (Call × String)}

theorem exists_name (h : s.PromotedUnder stmt names) {c : Call} (hc : c ∈ stmt.block.calls) :
    ∃ name, lookupBy Call.same names c = some name := by
  obtain ⟨key, hk, hs⟩ := exists_same_distinctKeys Call.same_self hc
  exact exists_lookupBy (by rwa [h.named.keys]) hs

theorem calls_overPromoted (h : s.PromotedUnder stmt names) {e : Expr}
    (he : e ∈ stmt.block.exprs) : (stmt.block.overPromoted names e).calls = [] := by
  rw [Block.overPromoted, Expr.calls_unqualify]
  exact Expr.calls_replaceCalls_eq_nil fun c hc => h.exists_name (Block.mem_calls.mpr ⟨e, he, hc⟩)

theorem promotedOuter_plain (h : s.PromotedUnder stmt names) (label : String) :
    (stmt.block.promotedOuter names label).filtersOnWindow = false := by
  unfold Block.filtersOnWindow Block.promotedOuter
  cases hp : stmt.block.predicate with
  | none => rfl
  | some p =>
    have left := h.calls_overPromoted (e := p) (by simp [Block.exprs, hp])
    simpa using left

theorem names_ne_nil (h : s.PromotedUnder stmt names)
    (filters : stmt.block.filtersOnWindow = true) : names ≠ [] := by
  obtain ⟨p, hp, c, hc⟩ := Block.exists_call_of_filtersOnWindow filters
  obtain ⟨name, found⟩ := h.exists_name (Block.calls_predicate_subset hp hc)
  rintro rfl
  simp [lookupBy] at found

end PromotedUnder

theorem split_eq_ok {s : Setting} {stmt r : Statement} :
    s.split stmt = .ok r ↔ ∃ names, s.promotedNames stmt = .ok names ∧
      .derived (stmt.block.promotedOuter names s.options.subqueryLabel)
        (stmt.withBlock (stmt.block.promotedInner names)) = r :=
  map_eq_ok

end Setting

namespace Statement

/-- The blocks of a statement, from the outermost one inwards. -/
def blocks : Statement → List Block
  | select b => [b]
  | derived b s => b :: s.blocks

theorem block_mem_blocks (stmt : Statement) : stmt.block ∈ stmt.blocks := by
  cases stmt <;> simp [block, blocks]

def innermost : Statement → Block
  | select b => b
  | derived _ s => s.innermost

/-- No select item at any depth is promoted. -/
def Unmarked (stmt : Statement) : Prop :=
  ∀ b ∈ stmt.blocks, ∀ item ∈ b.items, item.promoted = false

instance (stmt : Statement) : Decidable stmt.Unmarked :=
  inferInstanceAs (Decidable (∀ b ∈ stmt.blocks, ∀ item ∈ b.items, item.promoted = false))

theorem Unmarked.block {stmt : Statement} (h : stmt.Unmarked) :
    ∀ item ∈ stmt.block.items, item.promoted = false :=
  h _ stmt.block_mem_blocks

theorem Unmarked.inner {b : Block} {stmt : Statement} (h : (derived b stmt).Unmarked) :
    stmt.Unmarked :=
  fun b' hb' => h b' (List.mem_cons_of_mem _ hb')

theorem readsPromoted_derived_eq_false {b : Block} {stmt : Statement}
    (h : ∀ item ∈ stmt.block.items, item.promoted = false) :
    (derived b stmt).readsPromoted = false := by
  simpa [readsPromoted] using h

theorem Unmarked.readsPromoted {stmt : Statement} (h : stmt.Unmarked) :
    stmt.readsPromoted = false := by
  cases stmt with
  | select b => rfl
  | derived b inner => exact readsPromoted_derived_eq_false h.inner.block

theorem block_derived (b : Block) (stmt : Statement) : (derived b stmt).block = b := rfl

theorem block_withBlock (b : Block) (stmt : Statement) : (stmt.withBlock b).block = b := by
  cases stmt <;> rfl

theorem blocks_withBlock (b : Block) (stmt : Statement) :
    (stmt.withBlock b).blocks = b :: stmt.blocks.tail := by
  cases stmt <;> rfl

theorem depth_withBlock (b : Block) (stmt : Statement) :
    (stmt.withBlock b).depth = stmt.depth := by
  cases stmt <;> rfl

/-- Nothing of a statement has to be moved. -/
def Settled : Statement → Prop
  | select b => b.filtersOnWindow = false
  | derived b s => (derived b s).readsPromoted = true ∨ s.Settled ∧ b.filtersOnWindow = false

theorem Settled.of_readsPromoted {stmt : Statement} (h : stmt.readsPromoted = true) :
    stmt.Settled := by
  cases stmt with
  | select b => cases h
  | derived b s => exact .inl h

theorem Unmarked.settled_iff {stmt : Statement} (h : stmt.Unmarked) :
    stmt.Settled ↔ ∀ b ∈ stmt.blocks, b.filtersOnWindow = false := by
  induction stmt with
  | select b => simp [Settled, blocks]
  | derived b s ih =>
    simp only [Settled, h.readsPromoted, Bool.false_eq_true, false_or, blocks,
      List.forall_mem_cons, ih h.inner, and_comm]

end Statement

namespace Setting

/-- A run of the promotion from one statement to another, by the way its outermost level is
treated. -/
inductive Moves (s : Setting) : Statement → Statement → Prop where
  | keepSelect {b : Block} (plain : b.filtersOnWindow = false) : Moves s (.select b) (.select b)
  | splitSelect {b : Block} {r : Statement} (filters : b.filtersOnWindow = true)
      (split : s.split (.select b) = .ok r) : Moves s (.select b) r
  | marked {b : Block} {q : Statement} (marked : (Statement.derived b q).readsPromoted = true) :
      Moves s (.derived b q) (.derived b q)
  | keepDerived {b : Block} {q q' : Statement}
      (unmarked : (Statement.derived b q).readsPromoted = false) (source : Moves s q q')
      (plain : b.filtersOnWindow = false) : Moves s (.derived b q) (.derived b q')
  | splitDerived {b : Block} {q q' r : Statement}
      (unmarked : (Statement.derived b q).readsPromoted = false) (source : Moves s q q')
      (filters : b.filtersOnWindow = true) (split : s.split (.derived b q') = .ok r) :
      Moves s (.derived b q) r

theorem promote?_select_eq_ok {s : Setting} {b : Block} {moved : Option Statement} :
    s.promote? (.select b) = .ok moved ↔
      b.filtersOnWindow = false ∧ moved = none ∨
      b.filtersOnWindow = true ∧ ∃ r, s.split (.select b) = .ok r ∧ moved = some r := by
  rw [promote?]
  cases b.filtersOnWindow <;> simp [map_eq_ok, @eq_comm _ moved]

theorem promote?_derived_eq_ok {s : Setting} {b : Block} {q : Statement}
    {moved : Option Statement} :
    s.promote? (.derived b q) = .ok moved ↔
      (Statement.derived b q).readsPromoted = true ∧ moved = none ∨
      (Statement.derived b q).readsPromoted = false ∧ ∃ m, s.promote? q = .ok m ∧
        (b.filtersOnWindow = false ∧ moved = m.map (.derived b) ∨
        b.filtersOnWindow = true ∧
          ∃ r, s.split (.derived b (m.getD q)) = .ok r ∧ moved = some r) := by
  rw [promote?]
  cases (Statement.derived b q).readsPromoted with
  | true => simp [@eq_comm _ moved]
  | false =>
    simp only [Bool.false_eq_true, ↓reduceIte, bind_eq_ok, false_and, true_and, false_or]
    cases b.filtersOnWindow <;> simp [map_eq_ok, @eq_comm _ moved]

theorem moves_of_promote? {s : Setting} {stmt : Statement} {moved : Option Statement}
    (h : s.promote? stmt = .ok moved) : s.Moves stmt (moved.getD stmt) := by
  induction stmt generalizing moved with
  | select b =>
    rcases promote?_select_eq_ok.mp h with ⟨plain, rfl⟩ | ⟨filters, r, split, rfl⟩
    · exact .keepSelect plain
    · exact .splitSelect filters split
  | derived b q ih =>
    rcases promote?_derived_eq_ok.mp h with
      ⟨marked, rfl⟩ | ⟨unmarked, m, source, ⟨plain, rfl⟩ | ⟨filters, r, split, rfl⟩⟩
    · exact .marked marked
    · have run := Moves.keepDerived unmarked (ih source) plain
      cases m <;> exact run
    · exact .splitDerived unmarked (ih source) filters split

/-- Moving filters fails as splits do, of statements with a property that runs below keep. -/
theorem promote?_failsOnly_of_split {s : Setting} {P : Failure → Prop} {I : Statement → Prop}
    (source : ∀ {b q}, I (.derived b q) → I q)
    (above : ∀ {b q q'}, I (.derived b q) → s.Moves q q' → I (.derived b q'))
    (split : ∀ {stmt}, I stmt → FailsOnly P (s.split stmt)) {stmt : Statement} (h : I stmt) :
    FailsOnly P (s.promote? stmt) := by
  induction stmt with
  | select b =>
    rw [promote?]
    split
    · exact (split h).map _
    · exact .ok _
  | derived b q ih =>
    rw [promote?]
    split
    · exact .ok _
    · refine (ih (source h)).bind fun moved run => ?_
      split
      · exact (split (above h (moves_of_promote? run))).map _
      · exact .ok _

theorem promote?_eq_none_iff {s : Setting} {stmt : Statement} :
    s.promote? stmt = .ok none ↔ stmt.Settled := by
  induction stmt with
  | select b => simp [promote?_select_eq_ok, Statement.Settled]
  | derived b q ih =>
    rw [promote?_derived_eq_ok, Statement.Settled, ← ih]
    cases (Statement.derived b q).readsPromoted with
    | true => simp
    | false => simp [@eq_comm _ none, Option.map_eq_none_iff]

/-- What a split makes of a statement that filters on window calls: a block that does so no more,
over a block that is all promoted and has no filter, over the source. -/
theorem split_spec {s : Setting} {stmt r : Statement} (split : s.split stmt = .ok r)
    (filters : stmt.block.filtersOnWindow = true) :
    r.readsPromoted = true ∧ r.depth = stmt.depth + 1 ∧
    ∃ outer inner, r.blocks = outer :: inner :: stmt.blocks.tail ∧
      outer.filtersOnWindow = false ∧ inner.filtersOnWindow = false := by
  obtain ⟨names, given, rfl⟩ := split_eq_ok.mp split
  have under := promotedNames_eq_ok given
  refine ⟨?_, by simp [Statement.depth, Statement.depth_withBlock],
    stmt.block.promotedOuter names s.options.subqueryLabel, stmt.block.promotedInner names, ?_,
    under.promotedOuter_plain _, rfl⟩
  · obtain ⟨first, rest, rfl⟩ := List.exists_cons_of_ne_nil (under.names_ne_nil filters)
    simp [Statement.readsPromoted, Statement.block_withBlock, Block.promotedInner]
  · rw [Statement.blocks, Statement.blocks_withBlock]

/-- A run ends where nothing has to be moved, whatever was promoted before. -/
theorem Moves.settled {s : Setting} {stmt r : Statement} (run : s.Moves stmt r) : r.Settled := by
  induction run with
  | keepSelect plain => exact plain
  | splitSelect filters split => exact .of_readsPromoted (split_spec split filters).1
  | marked marked => exact .inl marked
  | keepDerived _ _ plain ih => exact .inr ⟨ih, plain⟩
  | splitDerived _ _ filters split _ => exact .of_readsPromoted (split_spec split filters).1

/-- A run leaves the select list of the outermost level as it was, but for its expressions. -/
theorem Moves.head {s : Setting} {stmt r : Statement} (run : s.Moves stmt r) :
    r.block.items.map (fun i => (i.name, i.promoted)) =
      stmt.block.items.map (fun i => (i.name, i.promoted)) ∧
    r.block.selectAll = stmt.block.selectAll ∧ r.block.isFilter = stmt.block.isFilter := by
  have head {stmt r : Statement} (split : s.split stmt = .ok r) :
      r.block.items.map (fun i => (i.name, i.promoted)) =
        stmt.block.items.map (fun i => (i.name, i.promoted)) ∧
      r.block.selectAll = stmt.block.selectAll ∧ r.block.isFilter = stmt.block.isFilter := by
    obtain ⟨names, -, rfl⟩ := split_eq_ok.mp split
    refine ⟨?_, rfl, rfl⟩
    simp [Statement.block, Block.promotedOuter, Function.comp_def]
  cases run with
  | splitSelect _ split => exact head split
  | splitDerived _ _ _ split =>
    have above := head split
    exact above
  | keepSelect | marked | keepDerived => exact ⟨rfl, rfl, rfl⟩

/-- A run changes nothing in which columns a statement is seen to have. -/
theorem Moves.listed {s : Setting} {stmt r : Statement} (run : s.Moves stmt r) :
    r.block.names = stmt.block.names ∧ r.block.isExplicit = stmt.block.isExplicit := by
  obtain ⟨items, all, -⟩ := run.head
  have names : r.block.names = stmt.block.names := by
    have firsts := congrArg (List.map Prod.fst) items
    simpa [Block.names, Function.comp_def] using firsts
  have empty (b : Block) : b.items.isEmpty = b.names.isEmpty := by simp [Block.names]
  exact ⟨names, by rw [Block.isExplicit, Block.isExplicit, empty, empty, names, all]⟩

/-- A level that filters on window calls, and whose source was not marked, is split: its calls are
promoted under names, over the source as it came out of the run below. -/
theorem exists_names_of_promote? {s : Setting} {stmt r : Statement}
    (unmarked : stmt.readsPromoted = false) (filters : stmt.block.filtersOnWindow = true)
    (h : s.promote? stmt = .ok (some r)) :
    ∃ source names, source.block = stmt.block ∧ s.PromotedUnder source names ∧
      r = .derived (stmt.block.promotedOuter names s.options.subqueryLabel)
        (source.withBlock (stmt.block.promotedInner names)) := by
  have opened {source : Statement} (split : s.split source = .ok r)
      (same : source.block = stmt.block) :
      ∃ source names, source.block = stmt.block ∧ s.PromotedUnder source names ∧
        r = .derived (stmt.block.promotedOuter names s.options.subqueryLabel)
          (source.withBlock (stmt.block.promotedInner names)) := by
    obtain ⟨names, given, rfl⟩ := split_eq_ok.mp split
    exact ⟨source, names, same, promotedNames_eq_ok given, by rw [same]⟩
  have run := moves_of_promote? h
  cases run with
  | splitSelect _ split => exact opened split rfl
  | splitDerived _ _ _ split => exact opened split rfl
  | marked marked => simp [unmarked] at marked
  | keepSelect plain => simp [Statement.block, plain] at filters
  | keepDerived _ _ plain => simp [Statement.block, plain] at filters

end Setting

def minRank (column : String) : Expr := .call "min_rank" [.column column] none

/-- The years in which the games of a player rank no higher than a bound. -/
def topGames (bound : Expr) : Statement :=
  .select
    { table := some "batting"
      predicate := some (.binary .le (minRank "G") bound)
      isFilter := true }

def topGamesMoved (bound : Expr) : Statement :=
  .derived
    { label := some "tmp"
      predicate := some (.binary .le (.column "rank_1") bound)
      isFilter := true }
    (.select
      { items := [⟨"rank_1", minRank "G", true⟩], selectAll := true, table := some "batting" })

def topTwo : Statement := topGames (.literal (.int 2))

def topTwoMoved : Statement := topGamesMoved (.literal (.int 2))

/-- The default setting for PostgreSQL. -/
def Setting.postgres : Setting := { dialect := .postgres, options := default }

end WindowSql
