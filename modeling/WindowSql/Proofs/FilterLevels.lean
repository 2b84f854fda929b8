import WindowSql.Proofs.TextFailures

/-!
# A subquery exactly where a filter needs one

`filters_moved_exactly`: after a run over a statement without promoted items no level filters on a
window call, so no text of it fails for that reason; the statement stays as it is exactly where no
level did; and there is one level more for each level that did.
-/

namespace WindowSql

namespace Setting

/-- The levels of a run over an unmarked statement: none filters on a window call any more, and each
that did has become two. -/
theorem Moves.levels {s : Setting} {stmt r : Statement} (run : s.Moves stmt r)
    (unmarked : stmt.Unmarked) :
    (∀ b ∈ r.blocks, b.filtersOnWindow = false) ∧
    r.depth = stmt.depth + stmt.blocks.countP (·.filtersOnWindow) := by
  induction run with
  | keepSelect plain => simp [Statement.blocks, Statement.depth, plain]
  | marked marked => simp [unmarked.readsPromoted] at marked
  | splitSelect filters split =>
    obtain ⟨-, depth, outer, inner, blocks, houter, hinner⟩ := split_spec split filters
    refine ⟨?_, ?_⟩
    · simp [blocks, Statement.blocks, houter, hinner]
    · rw [depth]
      simpa [Statement.blocks, Statement.block] using filters
  | @keepDerived b q q' _ _ plain ih =>
    obtain ⟨settled, depth⟩ := ih unmarked.inner
    refine ⟨?_, ?_⟩
    · rw [Statement.blocks, List.forall_mem_cons]
      exact ⟨plain, settled⟩
    · simp only [Statement.blocks, Statement.depth, depth, List.countP_cons, plain,
        Bool.false_eq_true, ↓reduceIte]
      omega
  | @splitDerived b q q' r _ _ filters split ih =>
    obtain ⟨settled, depth⟩ := ih unmarked.inner
    obtain ⟨-, more, outer, inner, blocks, houter, hinner⟩ := split_spec split filters
    refine ⟨?_, ?_⟩
    · rw [blocks, List.forall_mem_cons, List.forall_mem_cons]
      exact ⟨houter, hinner, settled⟩
    · have here : b.filtersOnWindow = true := filters
      simp only [more, Statement.blocks, Statement.depth, depth, List.countP_cons, here,
        ↓reduceIte]
      omega

/-- **Subqueries exactly where filters need them.** Of a statement without promoted items, no level
is left with a window call in its filter, and so none makes the text fail; nothing is moved exactly
where no level had one; and every level that had one is put over one more subquery. -/
theorem filters_moved_exactly (s : Setting) {stmt : Statement} (unmarked : stmt.Unmarked)
    {moved : Option Statement} (h : s.promote? stmt = .ok moved) :
    (∀ b ∈ (moved.getD stmt).blocks, b.filtersOnWindow = false) ∧
    (∀ (t : Setting) (p : Expr),
      t.statementText (moved.getD stmt) ≠ .error (.fault (.windowInFilter p))) ∧
    (moved = none ↔ ∀ b ∈ stmt.blocks, b.filtersOnWindow = false) ∧
    (moved.getD stmt).depth = stmt.depth + stmt.blocks.countP (·.filtersOnWindow) := by
  obtain ⟨settled, depth⟩ := (moves_of_promote? h).levels unmarked
  refine ⟨settled, ?_, ?_, depth⟩
  · intro t p failed
    cases t.statementText_failsOnly _ _ failed with
    | text text => cases text
    | filter level filters _ => simp [settled _ level] at filters
  · rw [← unmarked.settled_iff, ← promote?_eq_none_iff (s := s), h]
    simp

end Setting

/-- Of the two best years of each player by games, the best by at-bats. -/
def bestOfBest : Statement :=
  .derived
    { label := some "best"
      predicate := some (.binary .eq (minRank "AB") (.literal (.int 1)))
      isFilter := true }
    topTwo

def bestOfBestMoved : Statement :=
  .derived
    { label := some "tmp"
      predicate := some (.binary .eq (.column "rank_2") (.literal (.int 1)))
      isFilter := true }
    (.derived
      { items := [⟨"rank_2", minRank "AB", true⟩], selectAll := true, label := some "best" }
      topTwoMoved)

theorem filters_moved_exactly_bestOfBest :
    bestOfBest.Unmarked ∧ Setting.postgres.promote? bestOfBest = .ok (some bestOfBestMoved) ∧
    (∀ b ∈ bestOfBestMoved.blocks, b.filtersOnWindow = false) ∧
    (∀ (t : Setting) (p : Expr),
      t.statementText bestOfBestMoved ≠ .error (.fault (.windowInFilter p))) ∧
    (some bestOfBestMoved = none ↔ ∀ b ∈ bestOfBest.blocks, b.filtersOnWindow = false) ∧
    bestOfBestMoved.depth = bestOfBest.depth + 2 := by
  have unmarked : bestOfBest.Unmarked := by decide
  have run : Setting.postgres.promote? bestOfBest = .ok (some bestOfBestMoved) := rfl
  exact ⟨unmarked, run, Setting.postgres.filters_moved_exactly unmarked run⟩

end WindowSql
