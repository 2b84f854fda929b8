import WindowSql.Proofs.Compilation

/-!
# Moving filters twice

What a run has moved stays as it is in every later run, with the same setting or another one:

* `reached`: the levels a run looks at, down to the first one over promoted columns;
* `settled_iff_reached`: nothing has to be moved exactly where every level that is reached is over
  promoted columns or filters on no window call;
* `promotion_stable`: after a run every level that is reached is left as it is.
-/

namespace WindowSql

namespace Statement

/-- The levels that a run looks at, from the outermost one inwards. What a statement over promoted
columns reads from is not looked at. -/
def reached : Statement → List Statement
  | select b => [select b]
  | derived b s =>
    derived b s :: if (derived b s).readsPromoted then [] else s.reached

theorem settled_iff_reached (stmt : Statement) :
    stmt.Settled ↔ ∀ level ∈ stmt.reached,
      level.readsPromoted = true ∨ level.block.filtersOnWindow = false := by
  induction stmt with
  | select b => simp [Settled, reached, readsPromoted, block]
  | derived b s ih =>
    rw [reached, List.forall_mem_cons, Settled, ih]
    cases (derived b s).readsPromoted with
    | true => simp
    | false => simp [block, and_comm]

/-- A level that is reached reaches no more than the levels above it. -/
theorem reached_subset {stmt level : Statement} (h : level ∈ stmt.reached) :
    level.reached ⊆ stmt.reached := by
  induction stmt with
  | select b =>
    obtain rfl := List.mem_singleton.mp h
    exact List.Subset.refl _
  | derived b s ih =>
    rcases List.mem_cons.mp h with rfl | below
    · exact List.Subset.refl _
    · cases marked : (derived b s).readsPromoted with
      | true => simp [marked] at below
      | false =>
        simp only [marked, Bool.false_eq_true, ↓reduceIte] at below
        rw [reached, marked]
        exact List.subset_cons_of_subset _ (ih below)

theorem Settled.of_reached {stmt level : Statement} (h : stmt.Settled)
    (mem : level ∈ stmt.reached) : level.Settled :=
  level.settled_iff_reached.mpr fun below hb =>
    stmt.settled_iff_reached.mp h below (reached_subset mem hb)

end Statement

namespace Setting

/-- **Moving filters is idempotent.** What a run ends with, whatever was marked as promoted in what
it began with, is left as it is by every later run in any setting; and so is every level that the
later run looks at, for it is over promoted columns or filters on no window call. -/
theorem promotion_stable (s t : Setting) {stmt : Statement} {moved : Option Statement}
    (h : s.promote? stmt = .ok moved) :
    t.promote? (moved.getD stmt) = .ok none ∧
    ∀ level ∈ (moved.getD stmt).reached, t.promote? level = .ok none ∧
      (level.readsPromoted = true ∨ level.block.filtersOnWindow = false) := by
  have settled : (moved.getD stmt).Settled := (moves_of_promote? h).settled
  refine ⟨promote?_eq_none_iff.mpr settled, fun level mem => ⟨?_, ?_⟩⟩
  · exact promote?_eq_none_iff.mpr (settled.of_reached mem)
  · exact (Statement.settled_iff_reached _).mp settled level mem

/-- Where only the filter of the subquery is moved, the outermost level is over no promoted column
and is left as it is by the run that follows. -/
theorem promotion_stable_overTopTwo :
    postgres.promote? (.derived (selectOver (.column "G")) topTwo) =
      .ok (some (.derived (selectOver (.column "G")) topTwoMoved)) ∧
    (Statement.derived (selectOver (.column "G")) topTwoMoved).readsPromoted = false ∧
    postgres.promote? (.derived (selectOver (.column "G")) topTwoMoved) = .ok none ∧
    ∀ level ∈ (Statement.derived (selectOver (.column "G")) topTwoMoved).reached,
      postgres.promote? level = .ok none ∧
      (level.readsPromoted = true ∨ level.block.filtersOnWindow = false) := by
  have run : postgres.promote? (.derived (selectOver (.column "G")) topTwo) =
      .ok (some (.derived (selectOver (.column "G")) topTwoMoved)) := rfl
  exact ⟨run, rfl, postgres.promotion_stable postgres run⟩

end Setting

end WindowSql
