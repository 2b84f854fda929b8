import WindowSql.Proofs.ColumnScope
import WindowSql.Proofs.DottedNames
import WindowSql.Proofs.PromotedText
import WindowSql.Proofs.SharedColumns

/-!
# How promoted columns are spelled

The name of a promoted call is quoted as one name where the inner block selects it, and is written
as a column where the outer block refers to it:

* `Expr.at?`, `Block.at?`: what stands at a position outside calls;
* `at?_promotedOuter`: a split keeps the positions;
* `reference_bareName_eq_quote_iff`: a name that loses its qualifier, if it has one, is written as
  the quoted name exactly where it has no dot;
* `promoted_spelling_iff`: so is a promoted call, at each of its positions.
-/

namespace WindowSql

inductive Step where
  | left | right | below
  deriving DecidableEq, Repr

namespace Expr

/-- The part of an expression at the end of a path that enters no call. -/
def at? : List Step → Expr → Option Expr
  | [], e => some e
  | .left :: path, binary _ l _ => at? path l
  | .right :: path, binary _ _ r => at? path r
  | .below :: path, desc e => at? path e
  | _ :: _, _ => none

end Expr

namespace Block

/-- What stands at a position: in the expression of an item, or in the predicate behind them. -/
def at? (b : Block) (index : Nat) (path : List Step) : Option Expr :=
  b.exprs[index]?.bind (·.at? path)

theorem at?_overPromoted (b : Block) (names : List (Call × String)) (path : List Step)
    (e : Expr) : (b.overPromoted names e).at? path = (e.at? path).map (b.overPromoted names) := by
  induction path generalizing e with
  | nil => rfl
  | cons step path ih =>
    cases e with
    | column name =>
      have bare : b.overPromoted names (.column name) = .column (bareName b.qualifiers name) :=
        Expr.unqualify_column _ _
      rw [bare]
      cases step <;> rfl
    | literal v => cases step <;> rfl
    | call func args orderBy =>
      -- a call is a call or a column afterwards, which no step enters
      rw [overPromoted, Expr.replaceCalls]
      split
      · rw [Expr.unqualify_column]
        cases step <;> rfl
      · cases step <;> rfl
    | binary op l r =>
      cases step with
      | left => exact ih l
      | right => exact ih r
      | below => rfl
    | desc e =>
      cases step with
      | left | right => rfl
      | below => exact ih e

theorem at?_promotedOuter (b : Block) (names : List (Call × String)) (label : String)
    (index : Nat) (path : List Step) :
    (b.promotedOuter names label).at? index path =
      (b.at? index path).map (b.overPromoted names) := by
  rw [at?, at?, exprs_promotedOuter, List.getElem?_map]
  cases b.exprs[index]? with
  | none => rfl
  | some e => exact b.at?_overPromoted names path e

/-- A call that has a name is replaced by the bare name. -/
theorem overPromoted_toExpr (b : Block) {names : List (Call × String)} {c : Call} {name : String}
    (named : lookupBy Call.same names c = some name) :
    b.overPromoted names c.toExpr = .column (bareName b.qualifiers name) := by
  rw [overPromoted, Call.toExpr, Expr.replaceCalls]
  simp only [named]
  exact Expr.unqualify_column _ _

end Block

theorem bareName_of_plain {name : String} (plain : '.' ∉ name.toList) (qualifiers : List String) :
    bareName qualifiers name = name := by
  simp [bareName, Text.qualified, Text.splitLastDot?_of_plain plain]

namespace Dialect

/-- A name that may lose a qualifier is written as the quoted name exactly where it has no dot. -/
theorem reference_bareName_eq_quote_iff (d : Dialect) (qualifiers : List String) (name : String) :
    d.reference (bareName qualifiers name) = d.quote name ↔ '.' ∉ name.toList := by
  constructor
  · intro same dot
    obtain ⟨table, column, plain, rfl⟩ := Text.exists_last_dot dot
    rw [bareName, Text.qualified_dotted plain] at same
    split at same
    · rw [d.reference_of_plain plain] at same
      exact d.quote_column_ne table column same
    · exact (d.reference_eq_quote_iff _).mp same dot
  · intro plain
    rw [bareName_of_plain plain, d.reference_of_plain plain]

end Dialect

theorem Statement.promotedName?_promoted (outer b : Block) (source : Statement)
    {names : List (Call × String)} (nodup : (names.map Prod.snd).Nodup) :
    (derived outer (source.withBlock (b.promotedInner names))).promotedName? =
      lookupBy Call.same names := by
  funext c
  rw [promotedName?, promoted_derived _ _ _ nodup, List.find?_map, Option.map_map, lookupBy]
  rfl

namespace Setting

/-- A call of the outermost block is promoted only where that block filters on window calls. -/
theorem filtersOnWindow_of_promotedName? {s : Setting} {stmt r : Statement}
    (unmarked : stmt.Unmarked) (h : s.promote? stmt = .ok (some r)) {c : Call} {name : String}
    (named : r.promotedName? c = some name) : stmt.block.filtersOnWindow = true := by
  have unpromoted (absent : r.readsPromoted = false) : False := by
    rw [Statement.promotedName?, Statement.promoted_eq_nil absent] at named
    cases named
  have run : s.Moves stmt r := moves_of_promote? h
  cases run with
  | splitSelect filters _ => exact filters
  | splitDerived _ _ filters _ => exact filters
  | keepSelect | marked => exact (unpromoted unmarked.readsPromoted).elim
  | @keepDerived b q q' _ source _ =>
    refine (unpromoted (Statement.readsPromoted_derived_eq_false fun item mem => ?_)).elim
    have kept := List.mem_map_of_mem (f := fun i : SelectItem => (i.name, i.promoted)) mem
    rw [source.head.1] at kept
    obtain ⟨old, mem', same⟩ := List.mem_map.mp kept
    rw [← (Prod.mk.inj same).2]
    exact unmarked.inner.block old mem'

/-- **The spelling of promoted columns.** The inner block of a split selects a promoted call under
its quoted name. At every position where the call stood the outer block has a column, and it is
written as the quoted name exactly where the name has no dot. -/
theorem promoted_spelling_iff (s : Setting) {stmt r : Statement} (unmarked : stmt.Unmarked)
    (h : s.promote? stmt = .ok (some r)) {c : Call} {name : String}
    (named : r.promotedName? c = some name) :
    (∃ outer inner item key t, r = .derived outer inner ∧ item ∈ inner.block.items ∧
      item.name = name ∧ item.expr = key.toExpr ∧ c.same key = true ∧
      s.itemText inner.block.isFilter item = .ok (t ++ " AS " ++ s.dialect.quote name)) ∧
    ∀ index path, stmt.block.at? index path = some c.toExpr →
      ∃ column text, r.block.at? index path = some (.column column) ∧
        (∀ inWindow, s.text inWindow (.column column) = .ok text) ∧
        (text = s.dialect.quote name ↔ '.' ∉ name.toList) := by
  have filters := filtersOnWindow_of_promotedName? unmarked h named
  obtain ⟨source, names, eq, under, rfl⟩ :=
    exists_names_of_promote? unmarked.readsPromoted filters h
  rw [Statement.promotedName?_promoted _ _ _ under.named.nodup] at named
  obtain ⟨key, mem, same⟩ := lookupBy_eq_some named
  constructor
  · obtain ⟨inWindow, w, computed⟩ := under.exists_windowColumn mem
    refine ⟨_, _, ⟨name, key.toExpr, true⟩, key, w.sql, rfl, ?_, rfl, rfl, ?_, ?_⟩
    · rw [Statement.block_withBlock]
      exact List.mem_map.mpr ⟨_, mem, rfl⟩
    · rwa [Call.same_comm]
    · exact itemText_of_windowColumn computed _ name
  · intro index path stood
    refine ⟨bareName stmt.block.qualifiers name, _, ?_, fun inWindow => rfl,
      s.dialect.reference_bareName_eq_quote_iff _ name⟩
    rw [Statement.block_derived, Block.at?_promotedOuter, stood, Option.map_some,
      Block.overPromoted_toExpr _ named]

/-- The rank of the games is one column, under one text. -/
theorem promoted_spelling_iff_topTwo :
    topTwo.Unmarked ∧ postgres.promote? topTwo = .ok (some topTwoMoved) ∧
    topTwoMoved.promotedName? (rankOf "G") = some "rank_1" ∧
    topTwo.block.at? 0 [.left] = some (rankOf "G").toExpr ∧
    ∃ column text, topTwoMoved.block.at? 0 [.left] = some (.column column) ∧
      postgres.text true (.column column) = .ok text ∧
      text = postgres.dialect.quote "rank_1" := by
  have unmarked : topTwo.Unmarked := by decide
  have run : postgres.promote? topTwo = .ok (some topTwoMoved) := rfl
  have named : topTwoMoved.promotedName? (rankOf "G") = some "rank_1" := rfl
  have stood : topTwo.block.at? 0 [.left] = some (rankOf "G").toExpr := rfl
  obtain ⟨-, spelled⟩ := promoted_spelling_iff postgres unmarked run named
  obtain ⟨column, text, there, written, iff⟩ := spelled 0 [.left] stood
  exact ⟨unmarked, run, named, stood, column, text, there, written true, iff.mpr (by decide)⟩

theorem dottedTemplate_counts :
    hasPart counterField "\x7bstem\x7d.\x7bn\x7d".toList = true := by
  decide

/-- PostgreSQL with a dot in the generated names, over a subquery `rank`. -/
def withDottedNames : Setting :=
  { postgres with options := ⟨"rank", "\x7bstem\x7d.\x7bn\x7d", by decide, dottedTemplate_counts⟩ }

/-- The two best years of a player, with the rank under a dotted name. -/
def topTwoDotted : Statement :=
  .derived
    { label := some "rank"
      predicate := some (.binary .le (.column "rank.1") (.literal (.int 2)))
      isFilter := true }
    (.select
      { items := [⟨"rank.1", minRank "G", true⟩], selectAll := true, table := some "batting" })

/-- A dotted name is selected as one name and referred to as a column of the subquery. -/
theorem dotted_name_respelled :
    topTwo.Unmarked ∧ withDottedNames.promote? topTwo = .ok (some topTwoDotted) ∧
    topTwoDotted.promotedName? (rankOf "G") = some "rank.1" ∧
    topTwo.block.at? 0 [.left] = some (rankOf "G").toExpr ∧
    topTwoDotted.block.at? 0 [.left] = some (.column "rank.1") ∧
    withDottedNames.text true (.column "rank.1") = .ok "\"rank\".\"1\"" ∧
    withDottedNames.dialect.quote "rank.1" = "\"rank.1\"" ∧
    "\"rank\".\"1\"" ≠ "\"rank.1\"" :=
  ⟨by decide, rfl, rfl, rfl, rfl, rfl, by decide, by decide⟩

end Setting

end WindowSql
