import WindowSql.Compiled
import WindowSql.Proofs.Promotion

/-!
# Compilation

What a compilation that ends with SQL went through, and how it depends on the source:

* `compile_eq_ok`: the steps of a compilation;
* `checkOuter_derived_eq_ok`: what the check of a block over a moved filter asks of its expressions;
* `compile_over_source_iff`: a statement over a subquery is compiled as it would be over the moved
  subquery, exactly where nothing was moved or its own block passes the check for outer blocks.
-/

namespace WindowSql

namespace Block

/-- A column that a block may refer to over an inner one. -/
structure Sees (b inner : Block) (name : String) : Prop where
  qualifier : (Text.qualified name).qualifier = "" ∨ some (Text.qualified name).qualifier = b.label
  listed : inner.isExplicit = true → (Text.qualified name).column ∈ inner.names

/-- A block that may stand over a moved filter. -/
structure Outer (b inner : Block) : Prop where
  noCalls : ∀ e ∈ b.exprs, e.containsCall = false
  sees : ∀ e ∈ b.exprs, ∀ name ∈ e.columns, b.Sees inner name

theorem Outer.of_listed {b inner inner' : Block} (outer : b.Outer inner)
    (names : inner'.names = inner.names) (explicit : inner'.isExplicit = inner.isExplicit) :
    b.Outer inner' := by
  refine ⟨outer.noCalls, fun e he name hn => ?_⟩
  obtain ⟨qualifier, listed⟩ := outer.sees e he name hn
  exact ⟨qualifier, by rwa [names, explicit]⟩

end Block

namespace Statement

theorem checkColumn_eq_ok {b inner : Block} {name : String} :
    checkColumn b inner name = .ok () ↔ b.Sees inner name := by
  simp only [checkColumn]
  by_cases hidden : (Text.qualified name).qualifier ≠ "" ∧
      some (Text.qualified name).qualifier ≠ b.label
  · rw [if_pos hidden]
    simp only [reduceCtorEq, false_iff]
    intro sees
    rcases sees.qualifier with bare | label
    · exact hidden.1 bare
    · exact hidden.2 label
  · rw [if_neg hidden]
    rw [not_and_or, not_not, not_not] at hidden
    by_cases absent : inner.isExplicit = true ∧ (Text.qualified name).column ∉ inner.names
    · rw [if_pos absent]
      simp only [reduceCtorEq, false_iff]
      exact fun sees => absent.2 (sees.listed absent.1)
    · rw [if_neg absent]
      rw [not_and, not_not] at absent
      exact ⟨fun _ => ⟨hidden, absent⟩, fun _ => rfl⟩

theorem checkOuter_derived_eq_ok {b : Block} {inner : Statement} :
    (derived b inner).checkOuter = .ok () ↔ b.Outer inner.block := by
  simp only [checkOuter, check_bind_eq_ok, forM_eq_ok, checkColumn_eq_ok, block]
  constructor
  · rintro ⟨noCalls, sees⟩
    refine ⟨fun e he => ?_, sees⟩
    have passes := noCalls e he
    by_contra holds
    simp [holds] at passes
  · intro outer
    refine ⟨fun e he => ?_, outer.sees⟩
    simp [outer.noCalls e he]

end Statement

namespace Setting

theorem prepare_eq_ok {s : Setting} {stmt : Statement} {prepared : Statement × Bool} :
    s.prepare stmt = .ok prepared ↔ stmt.check s.catalog = .ok () ∧
      ∃ moved, s.promote? stmt = .ok moved ∧ (∀ r, moved = some r → r.checkOuter = .ok ()) ∧
        prepared = (moved.getD stmt, moved.isSome) := by
  rw [prepare, check_bind_eq_ok, lift_eq_ok, bind_eq_ok]
  refine and_congr_right fun _ => exists_congr fun moved => and_congr_right fun _ => ?_
  cases moved with
  | none => simp [eq_comm]
  | some r => simp [check_bind_eq_ok, lift_eq_ok, @eq_comm _ prepared]

/-- A compilation reports the ordering of the context, checks the statement, moves its filters,
checks what came of that if anything was moved, and writes it. -/
theorem compile_eq_ok {s : Setting} {stmt : Statement} {c : Compiled} :
    s.compile stmt = .ok c ↔
      (∃ ordering, s.context.describeOrder s.limits = .ok ordering) ∧
      stmt.check s.catalog = .ok () ∧
      ∃ moved, s.promote? stmt = .ok moved ∧ (∀ r, moved = some r → r.checkOuter = .ok ()) ∧
        ∃ sql, s.statementText (moved.getD stmt) = .ok sql ∧
          c = ⟨sql, s.dialect.name, moved.getD stmt, moved.isSome⟩ := by
  simp only [compile, bind_eq_ok, LongInteger.lift_eq_ok, prepare_eq_ok, pure_eq_ok,
    Except.ok.injEq]
  constructor
  · rintro ⟨_, ordering, _, ⟨checked, moved, run, outer, rfl⟩, sql, text, rfl⟩
    exact ⟨⟨_, ordering⟩, checked, moved, run, outer, sql, text, rfl⟩
  · rintro ⟨⟨_, ordering⟩, checked, moved, run, outer, sql, text, rfl⟩
    exact ⟨_, ordering, _, ⟨checked, moved, run, outer, rfl⟩, sql, text, rfl⟩

/-- **Compilation over a subquery.** A statement whose own filter computes no window call is
compiled as it is over the moved subquery, exactly where nothing in the subquery has to be moved or
its own block passes for one that stands over a moved filter. -/
theorem compile_over_source_iff (s : Setting) {b : Block} {q : Statement}
    (unmarked : (Statement.derived b q).Unmarked) (plain : b.filtersOnWindow = false)
    (checked : (Statement.derived b q).check s.catalog = .ok ()) {moved : Option Statement}
    (run : s.promote? q = .ok moved) {c' : Compiled}
    (compiled : s.compile (.derived b (moved.getD q)) = .ok c') :
    (∃ c, s.compile (.derived b q) = .ok c ∧ c.sql = c'.sql) ↔
      (∀ level ∈ q.blocks, level.filtersOnWindow = false) ∨ b.Outer q.block := by
  obtain ⟨ordering, -, _, again, -, sql, text, rfl⟩ := compile_eq_ok.mp compiled
  have source := moves_of_promote? run
  -- the moved subquery has nothing left to move, so its text is the one to compare with
  have settled : (Statement.derived b (moved.getD q)).Settled :=
    .inr ⟨source.settled, plain⟩
  rw [promote?_eq_none_iff.mpr settled] at again
  cases again
  have whole : s.promote? (.derived b q) = .ok (moved.map (.derived b)) :=
    promote?_derived_eq_ok.mpr (.inr ⟨unmarked.readsPromoted, moved, run, .inl ⟨plain, rfl⟩⟩)
  rw [← unmarked.inner.settled_iff, ← promote?_eq_none_iff (s := s), run]
  cases moved with
  | none =>
    have done := compile_eq_ok.mpr ⟨ordering, checked, _, whole, nofun, sql, text, rfl⟩
    exact iff_of_true ⟨_, done, rfl⟩ (.inl rfl)
  | some r =>
    obtain ⟨names, explicit⟩ := source.listed
    have head : b.Outer q.block ↔ (Statement.derived b r).checkOuter = .ok () := by
      rw [Statement.checkOuter_derived_eq_ok]
      exact ⟨fun outer => outer.of_listed names explicit,
        fun outer => outer.of_listed names.symm explicit.symm⟩
    simp only [Except.ok.injEq, reduceCtorEq, false_or, head]
    constructor
    · rintro ⟨c, done, -⟩
      obtain ⟨-, -, _, again, outer, -⟩ := compile_eq_ok.mp done
      rw [whole] at again
      cases again
      exact outer _ rfl
    · intro outer
      refine ⟨_, compile_eq_ok.mpr ⟨ordering, checked, _, whole, ?_, sql, text, rfl⟩, rfl⟩
      rintro _ ⟨⟩
      exact outer

end Setting

def selectOver (e : Expr) : Block := { items := [⟨"value", e, false⟩], label := some "best" }

/-- A column of the table may be selected over the moved filter. -/
theorem compile_over_source_iff_column :
    (Statement.derived (selectOver (.column "G")) topTwo).Unmarked ∧
    (Statement.derived (selectOver (.column "G")) topTwo).check Setting.postgres.catalog =
      .ok () ∧
    Setting.postgres.promote? topTwo = .ok (some topTwoMoved) ∧
    ∃ c', Setting.postgres.compile (.derived (selectOver (.column "G")) topTwoMoved) = .ok c' ∧
    ∃ c, Setting.postgres.compile (.derived (selectOver (.column "G")) topTwo) = .ok c ∧
      c.sql = c'.sql := by
  have unmarked : (Statement.derived (selectOver (.column "G")) topTwo).Unmarked := by decide
  have run : Setting.postgres.promote? topTwo = .ok (some topTwoMoved) := rfl
  have outer : (selectOver (.column "G")).Outer topTwo.block :=
    Statement.checkOuter_derived_eq_ok.mp rfl
  refine ⟨unmarked, rfl, run, _, rfl, ?_⟩
  exact (Setting.postgres.compile_over_source_iff unmarked rfl rfl run rfl).mpr (.inr outer)

/-- A rank may be selected over the moved filter, but not over the filter that has to be moved. -/
theorem rank_over_source_refused :
    (Statement.derived (selectOver (minRank "G")) topTwo).Unmarked ∧
    (selectOver (minRank "G")).filtersOnWindow = false ∧
    (Statement.derived (selectOver (minRank "G")) topTwo).check Setting.postgres.catalog =
      .ok () ∧
    Setting.postgres.promote? topTwo = .ok (some topTwoMoved) ∧
    (∃ c', Setting.postgres.compile (.derived (selectOver (minRank "G")) topTwoMoved) = .ok c') ∧
    Setting.postgres.compile (.derived (selectOver (minRank "G")) topTwo) =
      .error (.fault (.callLeft (minRank "G"))) :=
  ⟨by decide, rfl, rfl, rfl, ⟨_, rfl⟩, rfl⟩

end WindowSql
