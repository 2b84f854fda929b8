import WindowSql.Proofs.DistinctCalls

/-!
# Reported promotions

A compilation reports whether a filter was moved over a subquery, and the calls that were promoted
for it, by what its outermost level reads. Beside that report stands what was generated anywhere:

* `Statement.generated`: the promoted calls of every level by name, the outermost level first;
* `Block.promotedCalls`: the calls that a level has promoted for it;
* `Moves.accounts`: what a run generates, level by level, and how much of it the outermost level
  reads;
* `reported_promotions`: when the report is right, and when it has everything;
* `promotion_below_unreported`: a filter that is moved below the outermost level alone.
-/

namespace WindowSql

def SelectItem.generated? (item : SelectItem) : Option (String × Call) :=
  match item.promoted, item.expr with
  | true, .call func args orderBy => some (item.name, ⟨func, args, orderBy⟩)
  | _, _ => none

theorem SelectItem.generated?_eq_none {item : SelectItem} (h : item.promoted = false) :
    item.generated? = none := by
  rw [generated?, h]

theorem SelectItem.name_of_generated? {item : SelectItem} {p : String × Call}
    (h : item.generated? = some p) : item.name = p.1 := by
  unfold generated? at h
  split at h
  · cases h
    rfl
  · cases h

namespace Block

/-- The promoted calls of a block, by name. -/
def generated (b : Block) : List (String × Call) := b.items.filterMap SelectItem.generated?

theorem generated_eq_nil {b : Block} (h : ∀ item ∈ b.items, item.promoted = false) :
    b.generated = [] := by
  apply List.filterMap_eq_nil_iff.mpr
  intro item hi
  exact SelectItem.generated?_eq_none (h item hi)

theorem generated_promotedInner (b : Block) (names : List (Call × String)) :
    (b.promotedInner names).generated = names.map Prod.swap := by
  have each : SelectItem.generated? ∘ (fun p : Call × String => ⟨p.2, p.1.toExpr, true⟩) =
      some ∘ Prod.swap := rfl
  rw [generated, promotedInner, List.filterMap_map]
  exact (congrArg (List.filterMap · names) each).trans (congrFun List.filterMap_eq_map names)

theorem generated_promotedOuter {b : Block} (h : ∀ item ∈ b.items, item.promoted = false)
    (names : List (Call × String)) (label : String) :
    (b.promotedOuter names label).generated = [] := by
  apply generated_eq_nil
  intro item hi
  obtain ⟨before, mem, rfl⟩ := List.mem_map.mp hi
  exact h before mem

theorem name_mem_of_generated {b : Block} {p : String × Call} (h : p ∈ b.generated) :
    p.1 ∈ b.names := by
  obtain ⟨item, mem, made⟩ := List.mem_filterMap.mp h
  rw [← SelectItem.name_of_generated? made]
  exact List.mem_map_of_mem mem

/-- The calls that are promoted for a block: where it filters on window calls, those of its calls
that no earlier one is the same as. -/
def promotedCalls (b : Block) : List Call :=
  if b.filtersOnWindow then firstOccurrences Call.same b.calls else []

theorem promotedCalls_of_plain {b : Block} (h : b.filtersOnWindow = false) :
    b.promotedCalls = [] := by
  rw [promotedCalls, h]
  rfl

theorem promotedCalls_eq_nil_iff {b : Block} :
    b.promotedCalls = [] ↔ b.filtersOnWindow = false := by
  constructor
  · intro unmoved
    by_contra filters
    rw [Bool.not_eq_false] at filters
    obtain ⟨p, hp, c, hc⟩ := exists_call_of_filtersOnWindow filters
    obtain ⟨k, hk, -⟩ := exists_same_distinctKeys Call.same_self (calls_predicate_subset hp hc)
    rw [distinctKeys_eq_firstOccurrences Call.same_self Call.same_trans] at hk
    have kept : b.promotedCalls = firstOccurrences Call.same b.calls := if_pos filters
    rw [← kept, unmoved] at hk
    cases hk
  · exact promotedCalls_of_plain

end Block

namespace Statement

/-- The promoted calls of every level by name, from the outermost level inwards. -/
def generated (stmt : Statement) : List (String × Call) := stmt.blocks.flatMap Block.generated

theorem generated_derived (b : Block) (stmt : Statement) :
    (derived b stmt).generated = b.generated ++ stmt.generated := rfl

theorem generated_withBlock (b : Block) (stmt : Statement) :
    (stmt.withBlock b).generated = b.generated ++ stmt.blocks.tail.flatMap Block.generated := by
  rw [generated, blocks_withBlock, List.flatMap_cons]

/-- Every name that is generated at any depth shows where all levels pass on what they read. -/
theorem shows_of_generated {stmt : Statement} (passed : ∀ b ∈ stmt.blocks, b.isExplicit = false)
    {p : String × Call} (h : p ∈ stmt.generated) : stmt.Shows p.1 := by
  obtain ⟨b, mem, made⟩ := List.mem_flatMap.mp h
  obtain ⟨above, below, split⟩ := List.append_of_mem mem
  refine ⟨above, b, below, split, ?_, Block.name_mem_of_generated made⟩
  intro t ht
  apply passed
  rw [split]
  exact List.mem_append_left _ ht

end Statement

namespace Setting

/-- An account of what a run from one statement to another generates: what the outermost level reads
comes first, every name once, and holds the calls of that level alone; the rest holds those of the
levels below, under other names where these pass on what they read. -/
structure Accounts (stmt r : Statement) (below : List (String × Call)) : Prop where
  generated : r.generated = r.promoted ++ below
  nodup : (r.promoted.map Prod.fst).Nodup
  outermost : r.promoted.map Prod.snd = stmt.block.promotedCalls
  deeper : below.map Prod.snd = stmt.blocks.tail.flatMap Block.promotedCalls
  apart : (∀ b ∈ stmt.blocks.tail, b.isExplicit = false) →
    ∀ p ∈ below, p.1 ∉ r.promoted.map Prod.fst

theorem Accounts.calls {stmt r : Statement} {below : List (String × Call)}
    (h : Accounts stmt r below) :
    r.generated.map Prod.snd = stmt.blocks.flatMap Block.promotedCalls := by
  rw [h.generated, List.map_append, h.outermost, h.deeper, stmt.blocks_eq_cons,
    List.flatMap_cons, List.tail_cons]

/-- A split generates the calls of its level in front of what was generated below. -/
theorem split_generated {s : Setting} {stmt r : Statement} (split : s.split stmt = .ok r)
    (filters : stmt.block.filtersOnWindow = true)
    (unmarked : ∀ item ∈ stmt.block.items, item.promoted = false) :
    r.generated = r.promoted ++ stmt.blocks.tail.flatMap Block.generated ∧
    (r.promoted.map Prod.fst).Nodup ∧ r.promoted.map Prod.snd = stmt.block.promotedCalls ∧
    ∀ name ∈ r.promoted.map Prod.fst, name ∉ stmt.sourceNames := by
  obtain ⟨names, given, rfl⟩ := split_eq_ok.mp split
  have under := promotedNames_eq_ok given
  have firsts : (names.map Prod.swap).map Prod.fst = names.map Prod.snd := by
    simp [Function.comp_def]
  have seconds : (names.map Prod.swap).map Prod.snd = names.map Prod.fst := by
    simp [Function.comp_def]
  rw [Statement.promoted_derived _ _ _ under.named.nodup, firsts, seconds]
  refine ⟨?_, under.named.nodup, ?_, ?_⟩
  · rw [Statement.generated_derived, Block.generated_promotedOuter unmarked,
      Statement.generated_withBlock, Block.generated_promotedInner, List.nil_append]
  · rw [Block.promotedCalls, if_pos filters]
    exact under.keys_eq_firstOccurrences
  · intro name hn seen
    exact under.named.fresh name hn (List.mem_append_right _ seen)

/-- A run makes no level list its columns that did not do so before. -/
theorem Moves.passes {s : Setting} {stmt r : Statement} (run : s.Moves stmt r)
    (passed : ∀ b ∈ stmt.blocks, b.isExplicit = false) : ∀ b ∈ r.blocks, b.isExplicit = false := by
  have opened {stmt r : Statement} (split : s.split stmt = .ok r)
      (passed : ∀ b ∈ stmt.blocks, b.isExplicit = false) :
      ∀ b ∈ r.blocks, b.isExplicit = false := by
    obtain ⟨names, -, rfl⟩ := split_eq_ok.mp split
    rw [stmt.blocks_eq_cons, List.forall_mem_cons] at passed
    rw [Statement.blocks, Statement.blocks_withBlock, List.forall_mem_cons, List.forall_mem_cons]
    refine ⟨?_, rfl, passed.2⟩
    simpa [Block.isExplicit, Block.promotedOuter] using passed.1
  induction run with
  | keepSelect | marked => exact passed
  | splitSelect _ split => exact opened split passed
  | keepDerived _ _ _ ih =>
    rw [Statement.blocks, List.forall_mem_cons] at passed ⊢
    exact ⟨passed.1, ih passed.2⟩
  | splitDerived _ _ _ split ih =>
    rw [Statement.blocks, List.forall_mem_cons] at passed
    apply opened split
    rw [Statement.blocks, List.forall_mem_cons]
    exact ⟨passed.1, ih passed.2⟩

/-- The account of a run over a statement without promoted items. -/
theorem Moves.accounts {s : Setting} {stmt r : Statement} (run : s.Moves stmt r)
    (unmarked : stmt.Unmarked) : ∃ below, Accounts stmt r below := by
  induction run with
  | marked marked => simp [unmarked.readsPromoted] at marked
  | @keepSelect b plain =>
    have nothing : (Statement.select b).generated = [] := by
      rw [Statement.generated, Statement.blocks, List.flatMap_singleton]
      exact Block.generated_eq_nil unmarked.block
    refine ⟨[], nothing, List.nodup_nil, ?_, rfl, fun _ => List.forall_mem_nil _⟩
    exact (Block.promotedCalls_of_plain plain).symm
  | splitSelect filters split =>
    obtain ⟨generated, nodup, outermost, -⟩ := split_generated split filters unmarked.block
    exact ⟨[], generated, nodup, outermost, rfl, fun _ => List.forall_mem_nil _⟩
  | @keepDerived b q q' unread source plain ih =>
    obtain ⟨below, account⟩ := ih unmarked.inner
    have unread' : (Statement.derived b q').promoted = [] :=
      Statement.promoted_eq_nil ((source.readsPromoted_above b).trans unread)
    have here : b.generated = [] := Block.generated_eq_nil unmarked.block
    refine ⟨q'.generated, ?_, ?_, ?_, account.calls, ?_⟩
    · rw [Statement.generated_derived, here, unread']
    · rw [unread']
      exact List.nodup_nil
    · rw [unread']
      exact (Block.promotedCalls_of_plain plain).symm
    · intro _ p _
      rw [unread']
      exact List.not_mem_nil
  | @splitDerived b q q' r unread source filters split ih =>
    obtain ⟨below, account⟩ := ih unmarked.inner
    obtain ⟨generated, nodup, outermost, fresh⟩ := split_generated split filters unmarked.block
    refine ⟨q'.generated, generated, nodup, outermost, account.calls, ?_⟩
    intro passed p made again
    apply fresh p.1 again
    apply Statement.mem_exposedNames_iff.mpr
    exact Statement.shows_of_generated (source.passes passed) made

end Setting

namespace Compiled

/-- The report has every call that was promoted at any depth, by its name. -/
def ReportsAll (c : Compiled) : Prop :=
  ∀ p ∈ c.statement.generated, c.promoted.lookup p.1 = some p.2

end Compiled

namespace Setting

/-- Everything is reported exactly where what is generated below is generated at the outermost level
as well. -/
theorem Accounts.reportsAll_iff {stmt : Statement} {c : Compiled} {below : List (String × Call)}
    (h : Accounts stmt c.statement below) : c.ReportsAll ↔ below ⊆ c.promoted := by
  rw [Compiled.ReportsAll, h.generated]
  constructor
  · intro all p hp
    exact (lookup_eq_some_iff_mem h.nodup).mp (all p (List.mem_append_right _ hp))
  · intro again p hp
    apply (lookup_eq_some_iff_mem h.nodup).mpr
    rcases List.mem_append.mp hp with here | deeper
    · exact here
    · exact again deeper

theorem Accounts.below_eq_nil_iff {stmt r : Statement} {below : List (String × Call)}
    (h : Accounts stmt r below) :
    below = [] ↔ ∀ b ∈ stmt.blocks.tail, b.filtersOnWindow = false := by
  rw [← List.map_eq_nil_iff, h.deeper, List.flatMap_eq_nil_iff]
  simp only [Block.promotedCalls_eq_nil_iff]

/-- Where the levels below pass on what they read, nothing that they generate is generated again. -/
theorem Accounts.reportsAll_iff_of_passed {stmt : Statement} {c : Compiled}
    {below : List (String × Call)} (h : Accounts stmt c.statement below)
    (passed : ∀ b ∈ stmt.blocks.tail, b.isExplicit = false) :
    c.ReportsAll ↔ ∀ b ∈ stmt.blocks.tail, b.filtersOnWindow = false := by
  rw [h.reportsAll_iff, ← h.below_eq_nil_iff]
  constructor
  · intro again
    apply List.eq_nil_iff_forall_not_mem.mpr
    intro p hp
    exact h.apart passed p hp (List.mem_map_of_mem (again hp))
  · rintro rfl
    exact List.nil_subset _

/-- After a run the outermost level reads promoted columns exactly where it filtered on window
calls. -/
theorem Moves.readsPromoted_iff {s : Setting} {stmt r : Statement} (run : s.Moves stmt r)
    (unmarked : stmt.Unmarked) :
    r.readsPromoted = true ↔ stmt.block.filtersOnWindow = true := by
  cases run with
  | keepSelect plain => simp [Statement.readsPromoted, Statement.block, plain]
  | marked marked => simp [unmarked.readsPromoted] at marked
  | splitSelect filters split => exact iff_of_true (split_spec split filters).1 filters
  | keepDerived unread source plain =>
    rw [source.readsPromoted_above, unread, Statement.block_derived, plain]
  | splitDerived _ _ filters split => exact iff_of_true (split_spec split filters).1 filters

/-- **What a compilation reports.** A statement without promoted items is changed exactly where one
of its levels filters on a window call, and is reported as changed exactly where the outermost one
does; so that report is right unless only levels below filter. What is generated at any depth is
what the outermost level reads, which is reported, and what the levels below read. All of it is
reported exactly where the outermost level has it all, each call under the same name; and where the
levels below pass on what they read, that is exactly where none of them filters on a window call. -/
theorem reported_promotions (s : Setting) {stmt : Statement} (unmarked : stmt.Unmarked)
    {c : Compiled} (h : s.compile stmt = .ok c) :
    (c.changed = true ↔ ∃ b ∈ stmt.blocks, b.filtersOnWindow = true) ∧
    (c.readsPromoted = true ↔ stmt.block.filtersOnWindow = true) ∧
    (c.readsPromoted = c.changed ↔ stmt.block.filtersOnWindow = true ∨
      ∀ b ∈ stmt.blocks.tail, b.filtersOnWindow = false) ∧
    ∃ below, Accounts stmt c.statement below ∧
      (c.ReportsAll ↔ below ⊆ c.promoted) ∧
      ((∀ b ∈ stmt.blocks.tail, b.isExplicit = false) →
        (c.ReportsAll ↔ ∀ b ∈ stmt.blocks.tail, b.filtersOnWindow = false)) := by
  obtain ⟨-, -, moved, run, -, sql, -, rfl⟩ := compile_eq_ok.mp h
  have moves := moves_of_promote? run
  have changed : moved.isSome = true ↔ ∃ b ∈ stmt.blocks, b.filtersOnWindow = true := by
    have unchanged := unmarked.settled_iff
    rw [← promote?_eq_none_iff (s := s), run, Except.ok.injEq] at unchanged
    rw [← Option.ne_none_iff_isSome, Ne, unchanged]
    simp
  have reads := moves.readsPromoted_iff unmarked
  obtain ⟨below, account⟩ := moves.accounts unmarked
  refine ⟨changed, reads, ?_, below, account, account.reportsAll_iff,
    account.reportsAll_iff_of_passed⟩
  rw [Bool.eq_iff_iff]
  refine (iff_congr reads changed).trans ?_
  rw [stmt.blocks_eq_cons, List.tail_cons, List.exists_mem_cons_iff]
  cases stmt.block.filtersOnWindow <;> simp

/-- Two levels that filter: the report says so, and has the outer rank alone. -/
theorem reported_promotions_bestOfBest :
    bestOfBest.Unmarked ∧ ∃ c, postgres.compile bestOfBest = .ok c ∧
      c.readsPromoted = c.changed ∧ c.promoted = [("rank_2", rankOf "AB")] ∧
      c.statement.generated = [("rank_2", rankOf "AB"), ("rank_1", rankOf "G")] ∧
      ¬c.ReportsAll := by
  have unmarked : bestOfBest.Unmarked := by decide
  obtain ⟨c, run, moved⟩ : ∃ c, postgres.compile bestOfBest = .ok c ∧
      c.statement = bestOfBestMoved := ⟨_, rfl, rfl⟩
  obtain ⟨-, -, flag, below, account, -, passed⟩ := reported_promotions postgres unmarked run
  refine ⟨unmarked, c, run, flag.mpr (.inl rfl), ?_, ?_, ?_⟩
  · rw [Compiled.promoted, moved]
    rfl
  · rw [moved]
    rfl
  · intro all
    have plain := (passed (by decide)).mp all topTwo.block topTwo.block_mem_blocks
    cases plain

/-- Only the level below filters: a rank is promoted for it, and neither is reported. -/
theorem promotion_below_unreported :
    (Statement.derived (selectOver (.column "G")) topTwo).Unmarked ∧
    ∃ c, postgres.compile (.derived (selectOver (.column "G")) topTwo) = .ok c ∧
      c.changed = true ∧ c.readsPromoted = false ∧
      c.statement.generated = [("rank_1", rankOf "G")] ∧ c.promoted = [] := by
  have run : postgres.compile (.derived (selectOver (.column "G")) topTwo) =
      .ok ⟨_, _, .derived (selectOver (.column "G")) topTwoMoved, true⟩ := rfl
  exact ⟨by decide, _, run, rfl, rfl, rfl, rfl⟩

end Setting

end WindowSql
