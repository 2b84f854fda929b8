import WindowSql.Proofs.CheckedStatements

/-!
# Compiling what was compiled

A compiled statement can be compiled again, and nothing comes of that but the same text:

* `Block.check_eq_ok`: what the check of a block asks of its names and its expressions;
* `check_of_split`, `Moves.check`: the blocks that a filter is split into follow the rules that the
  block followed, so that every run keeps the check;
* `compiled_stable`: the statement a compilation ends with passes the check, is left as it is, and
  gives the same text, marks and promoted calls.
-/

namespace WindowSql

theorem firstRepeat?_eq_none_iff {seen l : List String} :
    firstRepeat? seen l = none ↔ l.Nodup ∧ ∀ s ∈ l, s ∉ seen := by
  induction l generalizing seen with
  | nil => simp [firstRepeat?]
  | cons s rest ih =>
    rw [firstRepeat?]
    by_cases again : s ∈ seen
    · simp [again]
    · rw [if_neg again, ih]
      simp only [List.nodup_cons, List.mem_cons, forall_eq_or_imp, not_or]
      constructor
      · rintro ⟨nodup, fresh⟩
        have new : s ∉ rest := fun mem => (fresh s mem).1 rfl
        exact ⟨⟨new, nodup⟩, again, fun t ht => (fresh t ht).2⟩
      · rintro ⟨⟨new, nodup⟩, -, fresh⟩
        refine ⟨nodup, fun t ht => ⟨?_, fresh t ht⟩⟩
        rintro rfl
        exact new ht

namespace Expr
variable {catalog : Catalog} {place place' : Place}

mutual

/-- The place of an expression is told in a fault and decides nothing. -/
theorem checkDesc_anywhere : ∀ (e : Expr) {isKey : Bool},
    e.checkDesc catalog place isKey = .ok () → e.checkDesc catalog place' isKey = .ok ()
  | column _, _, _ => rfl
  | literal _, _, _ => rfl
  | desc e, isKey, h => by
    cases isKey with
    | true => exact checkDesc_anywhere e (by simpa [checkDesc] using h)
    | false => cases h
  | binary _ l r, _, h => by
    rw [checkDesc, check_bind_eq_ok] at h ⊢
    exact ⟨checkDesc_anywhere l h.1, checkDesc_anywhere r h.2⟩
  | call _ args none, _, h => by
    rw [checkDesc, bind_eq_ok] at h ⊢
    obtain ⟨f, known, args'⟩ := h
    exact ⟨f, known, checkDescs_anywhere args args'⟩
  | call _ args (some keys), _, h => by
    rw [checkDesc, bind_eq_ok] at h ⊢
    obtain ⟨f, known, h⟩ := h
    rw [check_bind_eq_ok] at h
    refine ⟨f, known, ?_⟩
    rw [check_bind_eq_ok]
    exact ⟨checkDescs_anywhere args h.1, checkDescs_anywhere keys h.2⟩

theorem checkDescs_anywhere : ∀ (es : List Expr) {first others : Bool},
    checkDescs catalog place first others es = .ok () →
      checkDescs catalog place' first others es = .ok ()
  | [], _, _, _ => rfl
  | e :: rest, _, _, h => by
    rw [checkDescs, check_bind_eq_ok] at h ⊢
    exact ⟨checkDesc_anywhere e h.1, checkDescs_anywhere rest h.2⟩

end

theorem check_eq_ok {e : Expr} :
    e.check catalog place = .ok () ↔
      e.checkDesc catalog place false = .ok () ∧ ∀ c ∈ e.calls, c.check catalog = .ok () := by
  rw [check, check_bind_eq_ok, forM_eq_ok]

theorem Scalar.checkDesc_eq_ok {e : Expr} (h : e.Scalar) :
    e.checkDesc catalog place false = .ok () := by
  induction e with
  | column name => rfl
  | literal v => rfl
  | call func args orderBy => cases h.2
  | binary op l r ihl ihr =>
    obtain ⟨left, right⟩ := h.operands
    rw [checkDesc, check_bind_eq_ok]
    exact ⟨ihl left, ihr right⟩
  | desc e => exact h.1.elim

/-- What has no call and no `desc` passes the check in every place. -/
theorem Scalar.check_eq_ok {e : Expr} (h : e.Scalar) : e.check catalog place = .ok () := by
  refine Expr.check_eq_ok.mpr ⟨h.checkDesc_eq_ok, ?_⟩
  simp [h.2]

/-- A call of a checked expression passes the check on its own, in every place. -/
theorem check_of_mem_calls {e : Expr} (h : e.check catalog place = .ok ()) {c : Call}
    (hc : c ∈ e.calls) : c.toExpr.check catalog place' = .ok () := by
  obtain ⟨placed, calls⟩ := Expr.check_eq_ok.mp h
  have alone : c.toExpr.checkDesc catalog place' false = .ok () :=
    checkDesc_anywhere _ (checkDesc_of_mem_calls placed hc)
  refine Expr.check_eq_ok.mpr ⟨alone, fun c' hc' => ?_⟩
  obtain rfl := List.mem_singleton.mp hc'
  exact calls _ hc

end Expr

namespace Block

theorem check_eq_ok {catalog : Catalog} {b : Block} :
    b.check catalog = .ok () ↔ b.names.Nodup ∧
      (∀ item ∈ b.items, item.expr.check catalog .selectList = .ok ()) ∧
      ∀ p ∈ b.predicate, p.check catalog .predicate = .ok () := by
  have repeats : firstRepeat? [] b.names = none ↔ b.names.Nodup := by
    simp [firstRepeat?_eq_none_iff]
  rw [check, ← repeats]
  cases firstRepeat? [] b.names with
  | some name => simp
  | none =>
    simp only [check_bind_eq_ok, forM_eq_ok, Option.mem_toList, Option.mem_def, true_and]

theorem check_of_mem_calls {catalog : Catalog} {place : Place} {b : Block}
    (h : b.check catalog = .ok ()) {c : Call} (hc : c ∈ b.calls) :
    c.toExpr.check catalog place = .ok () := by
  obtain ⟨-, items, predicate⟩ := check_eq_ok.mp h
  obtain ⟨e, he, hc⟩ := mem_calls.mp hc
  rcases List.mem_append.mp he with selected | filter
  · obtain ⟨item, hi, rfl⟩ := List.mem_map.mp selected
    exact Expr.check_of_mem_calls (items item hi) hc
  · exact Expr.check_of_mem_calls (predicate e (by simpa using filter)) hc

end Block

namespace Setting

/-- The outer block of a split has names as before and no call or `desc` left. -/
theorem PromotedUnder.check_promotedOuter {s : Setting} {stmt : Statement}
    {names : List (Call × String)} (h : s.PromotedUnder stmt names)
    (checked : stmt.block.check s.catalog = .ok ()) (label : String) :
    (stmt.block.promotedOuter names label).check s.catalog = .ok () := by
  have scalar := h.scalar_outer (Block.sound_of_check checked) label
  obtain ⟨nodup, -⟩ := Block.check_eq_ok.mp checked
  have unchanged : (stmt.block.promotedOuter names label).names = stmt.block.names := by
    simp [Block.names, Block.promotedOuter, Function.comp_def]
  refine Block.check_eq_ok.mpr ⟨by rwa [unchanged], ?_, ?_⟩
  · intro item hi
    exact (scalar _ (List.mem_append_left _ (List.mem_map_of_mem hi))).check_eq_ok
  · intro p hp
    exact (scalar _ (List.mem_append_right _ (Option.mem_toList.mpr hp))).check_eq_ok

/-- The inner block of a split has the names that were given, which differ, and calls that were
checked where they stood. -/
theorem PromotedUnder.check_promotedInner {s : Setting} {stmt : Statement}
    {names : List (Call × String)} (h : s.PromotedUnder stmt names)
    (checked : stmt.block.check s.catalog = .ok ()) :
    (stmt.block.promotedInner names).check s.catalog = .ok () := by
  have nodup : (stmt.block.promotedInner names).names.Nodup := by
    rw [Block.names_promotedInner]
    exact h.named.nodup
  refine Block.check_eq_ok.mpr ⟨nodup, ?_, nofun⟩
  intro item hi
  obtain ⟨⟨c, name⟩, mem, rfl⟩ := List.mem_map.mp hi
  exact Block.check_of_mem_calls checked (h.key_mem_calls mem)

theorem check_of_split {s : Setting} {stmt r : Statement}
    (checked : stmt.check s.catalog = .ok ()) (split : s.split stmt = .ok r) :
    r.check s.catalog = .ok () := by
  obtain ⟨names, given, rfl⟩ := split_eq_ok.mp split
  have under := promotedNames_eq_ok given
  -- the inner block reads from the source of the statement, whose rules are followed already
  cases stmt with
  | select b =>
    obtain ⟨table, block⟩ := Statement.check_select_eq_ok.mp checked
    have inner := under.check_promotedInner block
    exact Statement.check_derived_eq_ok.mpr
      ⟨rfl, Statement.check_select_eq_ok.mpr ⟨table, inner⟩, under.check_promotedOuter block _⟩
  | derived b q =>
    obtain ⟨table, source, block⟩ := Statement.check_derived_eq_ok.mp checked
    have inner := under.check_promotedInner block
    exact Statement.check_derived_eq_ok.mpr
      ⟨rfl, Statement.check_derived_eq_ok.mpr ⟨table, source, inner⟩,
        under.check_promotedOuter block _⟩

/-- A run keeps the rules that the check asks for, at every level. -/
theorem Moves.check {s : Setting} {stmt r : Statement} (run : s.Moves stmt r)
    (checked : stmt.check s.catalog = .ok ()) : r.check s.catalog = .ok () := by
  induction run with
  | keepSelect | marked => exact checked
  | splitSelect _ split => exact check_of_split checked split
  | keepDerived _ _ _ ih => exact Statement.check_over checked ih
  | splitDerived _ _ _ split ih => exact check_of_split (Statement.check_over checked ih) split

/-- **Compilation is stable.** Whatever was marked as promoted before, the statement that a
compilation ends with passes the check, has no filter left to move, and is compiled as it is: to the
same text in the same dialect, with the same mark and the same promoted calls in the same order. -/
theorem compiled_stable (s : Setting) {stmt : Statement} {c : Compiled}
    (h : s.compile stmt = .ok c) :
    c.statement.check s.catalog = .ok () ∧ s.promote? c.statement = .ok none ∧
    ∃ c', s.compile c.statement = .ok c' ∧ c'.statement = c.statement ∧ c'.changed = false ∧
      c'.sql = c.sql ∧ c'.dialect = c.dialect ∧ c'.readsPromoted = c.readsPromoted ∧
      c'.promoted = c.promoted := by
  obtain ⟨ordering, checked, moved, run, -, sql, text, rfl⟩ := compile_eq_ok.mp h
  have moves := moves_of_promote? run
  have checked' : (moved.getD stmt).check s.catalog = .ok () := moves.check checked
  have settled : s.promote? (moved.getD stmt) = .ok none :=
    promote?_eq_none_iff.mpr moves.settled
  refine ⟨checked', settled, ⟨sql, s.dialect.name, moved.getD stmt, false⟩, ?_, rfl, rfl, rfl, rfl,
    rfl, rfl⟩
  exact compile_eq_ok.mpr ⟨ordering, checked', none, settled, nofun, sql, text, rfl⟩

/-- Both filters of the statement are moved by the first compilation and none by the second. -/
theorem compiled_stable_bestOfBest :
    ∃ c, postgres.compile bestOfBest = .ok c ∧ c.statement = bestOfBestMoved ∧ c.changed = true ∧
      bestOfBestMoved.check postgres.catalog = .ok () ∧
      postgres.promote? bestOfBestMoved = .ok none ∧
      ∃ c', postgres.compile bestOfBestMoved = .ok c' ∧ c'.statement = bestOfBestMoved ∧
        c'.changed = false ∧ c'.sql = c.sql ∧ c'.dialect = c.dialect ∧
        c'.readsPromoted = c.readsPromoted ∧ c'.promoted = c.promoted := by
  obtain ⟨c, run, moved, changed⟩ : ∃ c, postgres.compile bestOfBest = .ok c ∧
      c.statement = bestOfBestMoved ∧ c.changed = true := ⟨_, rfl, rfl, rfl⟩
  have again := postgres.compiled_stable run
  rw [moved] at again
  exact ⟨c, run, moved, changed, again⟩

end Setting

end WindowSql
