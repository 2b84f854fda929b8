import WindowSql.Proofs.DerivedNames
import WindowSql.Proofs.PromotedColumns

/-!
# Distinct calls

The block that a split adds is read off the block it was split from:

* `exists_split_of_promote?`: a filtering level is always split, over its source as that came out of
  the run below;
* `Block.Computes`: a block that holds nothing but given calls;
* `inner_block_computes`: the inner block of a split computes, of the calls of its level, those that
  no earlier one is the same as.
-/

namespace WindowSql

/-- A block that computes calls: it selects all of its source and each call under a name of its own,
in order, all of them promoted, and filters nothing. -/
structure Block.Computes (b : Block) (calls : List Call) : Prop where
  selectAll : b.selectAll = true
  unfiltered : b.predicate = none
  exprs : b.items.map (·.expr) = calls.map Call.toExpr
  promoted : ∀ item ∈ b.items, item.promoted = true
  nodup : b.names.Nodup

namespace Setting

def MovesTo (s : Setting) (stmt r : Statement) : Prop :=
  ∃ moved, s.promote? stmt = .ok moved ∧ r = moved.getD stmt

/-- A level that filters on window calls, and whose source was not marked, is split over its moved
source. -/
theorem exists_split_of_promote? {s : Setting} {stmt : Statement}
    (unmarked : stmt.readsPromoted = false) (filters : stmt.block.filtersOnWindow = true)
    {moved : Option Statement} (h : s.promote? stmt = .ok moved) :
    ∃ source r, moved = some r ∧ s.split source = .ok r ∧ source.block = stmt.block ∧
      Option.Rel s.MovesTo stmt.source? source.source? := by
  cases stmt with
  | select b =>
    rcases promote?_select_eq_ok.mp h with ⟨plain, -⟩ | ⟨-, r, split, rfl⟩
    · simp [Statement.block, plain] at filters
    · exact ⟨_, r, rfl, split, rfl, .none⟩
  | derived b q =>
    rcases promote?_derived_eq_ok.mp h with
      ⟨marked, -⟩ | ⟨-, m, below, ⟨plain, -⟩ | ⟨-, r, split, rfl⟩⟩
    · simp [unmarked] at marked
    · simp [Statement.block, plain] at filters
    · exact ⟨_, r, rfl, split, rfl, .some ⟨m, below, rfl⟩⟩

/-- The calls that are named are those that no earlier one is the same as. -/
theorem PromotedUnder.keys_eq_firstOccurrences {s : Setting} {source : Statement}
    {names : List (Call × String)} (under : s.PromotedUnder source names) :
    names.map Prod.fst = firstOccurrences Call.same source.block.calls :=
  under.named.keys.trans
    (distinctKeys_eq_firstOccurrences Call.same_self Call.same_trans source.block.calls)

/-- The inner block of a split computes the calls that are named. -/
theorem PromotedUnder.computes {s : Setting} {source : Statement} {names : List (Call × String)}
    (under : s.PromotedUnder source names) :
    (source.block.promotedInner names).Computes
      (firstOccurrences Call.same source.block.calls) where
  selectAll := rfl
  unfiltered := rfl
  exprs := by
    rw [← under.keys_eq_firstOccurrences]
    simp [Block.promotedInner, Function.comp_def]
  promoted := fun item hi => by
    obtain ⟨p, -, rfl⟩ := List.mem_map.mp hi
    rfl
  nodup := by
    rw [Block.names_promotedInner]
    exact under.named.nodup

/-- **Each distinct call is computed once.** A statement that filters on window calls is split. The
inner block reads from the source of the statement, whose own filters were moved before, and
computes the outermost calls that no earlier one is the same as, the select list before the filter,
and nothing else; the promoted calls of the result are these by name. The outer block selects the
names of the statement, marked as they were. -/
theorem inner_block_computes (s : Setting) {stmt : Statement} (unmarked : stmt.Unmarked)
    (filters : stmt.block.filtersOnWindow = true) {moved : Option Statement}
    (h : s.promote? stmt = .ok moved) :
    ∃ outer inner, moved = some (.derived outer inner) ∧
      inner.block.Computes (firstOccurrences Call.same stmt.block.calls) ∧
      inner.block.table = stmt.block.table ∧ inner.block.label = stmt.block.label ∧
      Option.Rel s.MovesTo stmt.source? inner.source? ∧
      (Statement.derived outer inner).promoted =
        inner.block.names.zip (firstOccurrences Call.same stmt.block.calls) ∧
      outer.items.map (fun i => (i.name, i.promoted)) =
        stmt.block.items.map (fun i => (i.name, i.promoted)) ∧
      outer.selectAll = stmt.block.selectAll ∧ outer.isFilter = stmt.block.isFilter := by
  obtain ⟨source, r, rfl, split, same, below⟩ :=
    exists_split_of_promote? unmarked.readsPromoted filters h
  have head := (moves_of_promote? h).head
  obtain ⟨names, given, rfl⟩ := split_eq_ok.mp split
  have under := promotedNames_eq_ok given
  have keys := under.keys_eq_firstOccurrences
  rw [same] at keys
  have promoted := Statement.promoted_derived
    (source.block.promotedOuter names s.options.subqueryLabel) source.block source
    under.named.nodup
  refine ⟨_, _, rfl, ?_, ?_, ?_, ?_, ?_, head⟩
  · rw [Statement.block_withBlock, ← same]
    exact under.computes
  · rw [Statement.block_withBlock, ← same]
    rfl
  · rw [Statement.block_withBlock, ← same]
    rfl
  · rwa [Statement.source?_withBlock]
  · rw [promoted, Statement.block_withBlock, Block.names_promotedInner, ← keys, List.zip_map']
    rfl

def rankOf (column : String) : Call := ⟨"min_rank", [.column column], none⟩

/-- Of the two best years of each player by games, those that are the best by games and rank no
lower by at-bats, with that rank. -/
def placesOfBest : Statement :=
  .derived
    { items := [⟨"place", minRank "AB", false⟩]
      label := some "best"
      predicate := some (.binary .and (.binary .le (minRank "G") (minRank "AB"))
        (.binary .eq (minRank "G") (.literal (.int 1))))
      isFilter := true }
    topTwo

def placesOfBestMoved : Statement :=
  .derived
    { items := [⟨"place", .column "rank_2", false⟩]
      label := some "tmp"
      predicate := some (.binary .and (.binary .le (.column "rank_3") (.column "rank_2"))
        (.binary .eq (.column "rank_3") (.literal (.int 1))))
      isFilter := true }
    (.derived
      { items := [⟨"rank_2", minRank "AB", true⟩, ⟨"rank_3", minRank "G", true⟩]
        selectAll := true
        label := some "best" }
      topTwoMoved)

/-- Four calls are two, the rank by at-bats first. -/
theorem inner_block_computes_places :
    placesOfBest.Unmarked ∧ placesOfBest.block.filtersOnWindow = true ∧
    postgres.promote? placesOfBest = .ok (some placesOfBestMoved) ∧
    placesOfBest.block.calls = [rankOf "AB", rankOf "G", rankOf "AB", rankOf "G"] ∧
    ∃ outer inner, placesOfBestMoved = .derived outer inner ∧
      inner.block.Computes [rankOf "AB", rankOf "G"] ∧
      Option.Rel postgres.MovesTo (some topTwo) inner.source? ∧
      placesOfBestMoved.promoted = [("rank_2", rankOf "AB"), ("rank_3", rankOf "G")] := by
  have unmarked : placesOfBest.Unmarked := by decide
  have run : postgres.promote? placesOfBest = .ok (some placesOfBestMoved) := rfl
  have distinct : firstOccurrences Call.same placesOfBest.block.calls =
      [rankOf "AB", rankOf "G"] := rfl
  obtain ⟨outer, inner, split, computes, -, -, below, promoted, -⟩ :=
    inner_block_computes postgres unmarked rfl run
  obtain ⟨rfl, rfl⟩ := Statement.derived.inj (Option.some.inj split)
  rw [distinct] at computes promoted
  exact ⟨unmarked, rfl, run, rfl, _, _, rfl, computes, below, promoted⟩

end Setting

end WindowSql
