import WindowSql.Proofs.ColumnScope
import WindowSql.Proofs.FilterLevels

/-!
# Fresh names through derived tables

The counters of a run begin anew at every level, so a name is fresh over several levels only because
the names below are looked up in what the run made of them:

* `mem_exposedNames_iff`: the names that are looked up are those that a statement shows through the
  derived tables it passes on;
* `mem_levels_iff_split`: the levels over promoted columns are what filtering levels are split into;
* `generated_names_fresh`: at every depth the names of an inner block differ from each other, from
  what its level selects and refers to, and from what its source shows.
-/

namespace WindowSql

namespace Statement

/-- A name is selected by the statement or by one below it whose columns all levels in between
pass on. -/
def Shows (stmt : Statement) (name : String) : Prop :=
  ∃ above b below, stmt.blocks = above ++ b :: below ∧
    (∀ t ∈ above, t.isExplicit = false) ∧ name ∈ b.names

theorem shows_select_iff {b : Block} {name : String} :
    (select b).Shows name ↔ name ∈ b.names := by
  constructor
  · rintro ⟨above, b', below, split, -, mem⟩
    cases above with
    | nil =>
      obtain ⟨rfl, -⟩ := List.cons.inj split
      exact mem
    | cons first above => simp [blocks] at split
  · intro mem
    exact ⟨[], b, [], rfl, by simp, mem⟩

theorem shows_derived_iff {b : Block} {stmt : Statement} {name : String} :
    (derived b stmt).Shows name ↔ name ∈ b.names ∨ b.isExplicit = false ∧ stmt.Shows name := by
  constructor
  · rintro ⟨above, b', below, split, passed, mem⟩
    cases above with
    | nil =>
      obtain ⟨rfl, -⟩ := List.cons.inj split
      exact .inl mem
    | cons first above =>
      obtain ⟨rfl, below'⟩ := List.cons.inj split
      obtain ⟨here, between⟩ := List.forall_mem_cons.mp passed
      exact .inr ⟨here, above, b', below, below', between, mem⟩
  · rintro (mem | ⟨here, above, b', below, split, between, mem⟩)
    · exact ⟨[], b, stmt.blocks, rfl, nofun, mem⟩
    · refine ⟨b :: above, b', below, ?_, List.forall_mem_cons.mpr ⟨here, between⟩, mem⟩
      rw [blocks, split, List.cons_append]

/-- The names that a level takes into account are those that show. -/
theorem mem_exposedNames_iff {stmt : Statement} {name : String} :
    name ∈ stmt.exposedNames ↔ stmt.Shows name := by
  induction stmt with
  | select b => rw [exposedNames, shows_select_iff]
  | derived b s ih =>
    rw [exposedNames, shows_derived_iff, ← ih]
    cases b.isExplicit <;> simp

/-- The statement that the outermost block reads from, if that is no table. -/
def source? : Statement → Option Statement
  | select _ => none
  | derived _ s => some s

theorem mem_sourceNames_iff {stmt : Statement} {name : String} :
    name ∈ stmt.sourceNames ↔ ∃ source ∈ stmt.source?, source.Shows name := by
  cases stmt with
  | select b => simp [sourceNames, source?]
  | derived b s => simp [sourceNames, source?, mem_exposedNames_iff]

theorem source?_withBlock (b : Block) (stmt : Statement) :
    (stmt.withBlock b).source? = stmt.source? := by
  cases stmt <;> rfl

theorem Unmarked.level {stmt level : Statement} (h : stmt.Unmarked) (mem : level ∈ stmt.levels) :
    level.Unmarked := by
  induction stmt with
  | select b =>
    obtain rfl := List.mem_singleton.mp mem
    exact h
  | derived b s ih =>
    rcases List.mem_cons.mp mem with rfl | below
    · exact h
    · exact ih h.inner below

/-- The names that an inner statement selects are new to the level it was split from and to its own
source. -/
structure FreshUnder (inner level : Statement) : Prop where
  nodup : inner.block.names.Nodup
  selected : ∀ name ∈ inner.block.names, name ∉ level.block.names
  referred : ∀ name ∈ inner.block.names, ∀ e ∈ level.block.exprs, name ∉ e.columns
  shown : ∀ name ∈ inner.block.names, ∀ source ∈ inner.source?, ¬source.Shows name

end Statement

namespace Setting

/-- What a split selects in its inner block is fresh. -/
theorem PromotedUnder.freshUnder {s : Setting} {source level : Statement}
    {names : List (Call × String)} (h : s.PromotedUnder source names)
    (same : source.block = level.block) :
    (source.withBlock (level.block.promotedInner names)).FreshUnder level := by
  have given : (source.withBlock (level.block.promotedInner names)).block.names =
      names.map Prod.snd := by
    rw [Statement.block_withBlock, Block.names_promotedInner]
  have fresh : ∀ name ∈ names.map Prod.snd,
      name ∉ level.block.names ∧ (∀ e ∈ level.block.exprs, name ∉ e.columns) ∧
      name ∉ source.sourceNames := by
    intro name hn
    have new := h.named.fresh name hn
    rw [same, Block.usedNames] at new
    simpa [and_assoc] using new
  refine ⟨by rw [given]; exact h.named.nodup, ?_, ?_, ?_⟩ <;> rw [given] <;> intro name hn
  · exact (fresh name hn).1
  · exact (fresh name hn).2.1
  · intro below hb shown
    rw [Statement.source?_withBlock] at hb
    exact (fresh name hn).2.2 (Statement.mem_sourceNames_iff.mpr ⟨below, hb, shown⟩)

/-- The levels over promoted columns of a statement that is not over any itself. -/
theorem mem_levels_of_unread {stmt t : Statement} (unread : stmt.readsPromoted = false) :
    t ∈ stmt.levels ∧ t.readsPromoted = true ↔
      t ∈ stmt.levels.tail ∧ t.readsPromoted = true := by
  rw [stmt.levels_eq_cons, List.mem_cons, List.tail_cons]
  constructor
  · rintro ⟨rfl | below, reads⟩
    · simp [unread] at reads
    · exact ⟨below, reads⟩
  · rintro ⟨below, reads⟩
    exact ⟨.inr below, reads⟩

/-- A split puts one level over promoted columns. -/
theorem mem_levels_of_split {s : Setting} {stmt r t : Statement} (split : s.split stmt = .ok r)
    (filters : stmt.block.filtersOnWindow = true) (unread : stmt.readsPromoted = false) :
    t ∈ r.levels ∧ t.readsPromoted = true ↔
      r = t ∨ t ∈ stmt.levels.tail ∧ t.readsPromoted = true := by
  obtain ⟨inner, unread', levels⟩ := split_levels split
  have reads : r.readsPromoted = true := (split_spec split filters).1
  rw [unread] at unread'
  rw [levels, List.mem_cons, List.mem_cons]
  constructor
  · rintro ⟨rfl | rfl | below, marked⟩
    · exact .inl rfl
    · simp [unread'] at marked
    · exact .inr ⟨below, marked⟩
  · rintro (rfl | ⟨below, marked⟩)
    · exact ⟨.inl rfl, reads⟩
    · exact ⟨.inr (.inr below), marked⟩

/-- The levels of a moved statement that are over promoted columns are what the filtering levels
were split into. -/
theorem mem_levels_iff_split {s : Setting} {stmt : Statement} (unmarked : stmt.Unmarked)
    {moved : Option Statement} (h : s.promote? stmt = .ok moved) {t : Statement} :
    t ∈ (moved.getD stmt).levels ∧ t.readsPromoted = true ↔
      ∃ level ∈ stmt.levels, level.block.filtersOnWindow = true ∧
        s.promote? level = .ok (some t) := by
  induction stmt generalizing moved with
  | select b =>
    rcases promote?_select_eq_ok.mp h with ⟨plain, rfl⟩ | ⟨filters, r, split, rfl⟩
    · rw [Option.getD_none, mem_levels_of_unread rfl]
      simp [Statement.levels, Statement.block, plain]
    · rw [Option.getD_some, mem_levels_of_split split filters rfl]
      simp [Statement.levels, Statement.block, filters, h]
  | derived b q ih =>
    rcases promote?_derived_eq_ok.mp h with ⟨marked, rfl⟩ | ⟨unread, m, source, here⟩
    · simp [unmarked.readsPromoted] at marked
    have below := ih unmarked.inner source
    have run := moves_of_promote? source
    have unread' : (Statement.derived b (m.getD q)).readsPromoted = false :=
      (run.readsPromoted_above b).trans unread
    simp only [Statement.levels, List.mem_cons, or_and_right, exists_or, exists_eq_left, ← below,
      Statement.block_derived]
    rcases here with ⟨plain, rfl⟩ | ⟨filters, r, split, rfl⟩
    · have kept : (m.map (Statement.derived b)).getD (.derived b q) =
          .derived b (m.getD q) := by
        cases m <;> rfl
      rw [kept, mem_levels_of_unread unread']
      simp [Statement.levels, plain]
    · rw [Option.getD_some, mem_levels_of_split split filters unread', h]
      simp [Statement.levels, filters]

/-- **Generated names are fresh.** Wherever a run over a statement without promoted items has put a
level over promoted columns, that level and the one inside it are what a filtering level of the
statement was split into. The names that the inner one selects differ from each other, from the
names that the filtering level selects, from the columns it refers to as they are written, and from
every name that shows through the source of the inner one, names of deeper splits among them. -/
theorem generated_names_fresh (s : Setting) {stmt : Statement} (unmarked : stmt.Unmarked)
    {moved : Option Statement} (h : s.promote? stmt = .ok moved) {outer : Block}
    {inner : Statement} (built : .derived outer inner ∈ (moved.getD stmt).levels)
    (reads : (Statement.derived outer inner).readsPromoted = true) :
    ∃ level ∈ stmt.levels, level.block.filtersOnWindow = true ∧
      s.promote? level = .ok (some (.derived outer inner)) ∧ inner.FreshUnder level := by
  obtain ⟨level, mem, filters, split⟩ := (mem_levels_iff_split unmarked h).mp ⟨built, reads⟩
  have unread : level.readsPromoted = false := (unmarked.level mem).readsPromoted
  obtain ⟨source, names, same, under, halves⟩ := exists_names_of_promote? unread filters split
  obtain ⟨-, rfl⟩ := Statement.derived.inj halves
  exact ⟨level, mem, filters, split, under.freshUnder same⟩

/-- The counter of the outer filter begins anew, and its first name shows through the source. -/
theorem generated_names_fresh_bestOfBest :
    bestOfBest.Unmarked ∧ postgres.promote? bestOfBest = .ok (some bestOfBestMoved) ∧
    ∃ outer inner source, bestOfBestMoved = .derived outer inner ∧
      inner.source? = some source ∧ source.Shows "rank_1" ∧ inner.block.names = ["rank_2"] ∧
      ∃ level ∈ bestOfBest.levels, level.block.filtersOnWindow = true ∧
        postgres.promote? level = .ok (some (.derived outer inner)) ∧
        inner.FreshUnder level := by
  have unmarked : bestOfBest.Unmarked := by decide
  have run : postgres.promote? bestOfBest = .ok (some bestOfBestMoved) := rfl
  have shown : topTwoMoved.Shows "rank_1" := Statement.mem_exposedNames_iff.mp (by decide)
  exact ⟨unmarked, run, _, _, topTwoMoved, rfl, rfl, shown, rfl,
    postgres.generated_names_fresh unmarked run List.mem_cons_self rfl⟩

end Setting

end WindowSql
