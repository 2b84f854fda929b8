import WindowSql.Proofs.DistinctCalls
import WindowSql.Proofs.TextLevels

/-!
# Writing what was promoted

A split computes the window of every call that it promotes, and these are the windows that are
written:

* `sourceText`, `statementText_of_block`: the source of a statement is all of it that its block does
  not write;
* `PromotedUnder.exists_outer_iff`: the outer block of a split is written exactly where the
  constants that stand in the statement outside its calls are;
* `PromotedUnder.items_inner`: an item of the inner block is the column that the split computed;
* `promoted_written`: so what a split makes of a checked statement is written wherever the source
  and these constants are.
-/

namespace WindowSql

namespace Block

/-- The constants of a block outside its calls. -/
def constants (b : Block) : List Literal := b.exprs.flatMap (·.outerLiterals)

theorem constants_promotedOuter (b : Block) (names : List (Call × String)) (label : String) :
    (b.promotedOuter names label).constants = b.constants := by
  rw [constants, exprs_promotedOuter, List.flatMap_map]
  simp only [overPromoted, Expr.outerLiterals_unqualify, Expr.outerLiterals_replaceCalls]
  rfl

end Block

namespace Setting
variable {s : Setting}

def sourceText (s : Setting) : Statement → Except Failure String
  | .select b => s.tableText b
  | .derived b inner => (s.statementText inner).map (s.subqueryText b)

/-- A statement whose block is written is written as its source is. -/
theorem statementText_of_block {stmt : Statement} {select : String} {filter : List String}
    (hselect : s.selectText stmt.block = .ok select)
    (hfilter : s.filterText stmt.block = .ok filter) :
    s.statementText stmt = (s.sourceText stmt).map fun source =>
      "\n".intercalate (select :: ("FROM " ++ source) :: filter) := by
  cases stmt with
  | select b =>
    rw [Statement.block] at hselect hfilter
    rw [statementText, sourceText, hselect, hfilter]
    cases s.tableText b <;> rfl
  | derived b inner =>
    rw [Statement.block] at hselect hfilter
    rw [statementText, sourceText, hselect, hfilter]
    cases s.statementText inner <;> rfl

/-- A promoted call is written as the column that was computed for it, in a filter or not. -/
theorem itemText_of_windowColumn {inWindow : Bool} {c : Call} {w : WindowColumn}
    (h : s.windowColumn inWindow c = .ok w) (isFilter : Bool) (name : String) :
    s.itemText isFilter ⟨name, c.toExpr, true⟩ = .ok (w.sql ++ " AS " ++ s.dialect.quote name) := by
  rw [itemText, Bool.or_true, text_of_windowColumn (windowColumn_inWindow h)]
  rfl

namespace PromotedUnder
variable {stmt : Statement} {names : List (Call × String)}

/-- The outer block fails for none but a constant that is too long. -/
theorem outer_failsOnly (under : s.PromotedUnder stmt names) (sound : stmt.block.Sound s.catalog)
    (label : String) :
    FailsOnly (fun e => e.OfLimit s.limits ∧ ∃ v ∈ stmt.block.constants, ¬v.Admitted s.limits)
        (s.selectText (stmt.block.promotedOuter names label)) ∧
      FailsOnly (fun e => e.OfLimit s.limits ∧ ∃ v ∈ stmt.block.constants, ¬v.Admitted s.limits)
        (s.filterText (stmt.block.promotedOuter names label)) := by
  have text : ∀ e ∈ (stmt.block.promotedOuter names label).exprs, ∀ inWindow,
      FailsOnly (fun f => f.OfLimit s.limits ∧ ∃ v ∈ stmt.block.constants, ¬v.Admitted s.limits)
        (s.text inWindow e) := by
    intro e he inWindow f failed
    have scalar := under.scalar_outer sound label e he
    refine ⟨scalar.sql_failsOnly _ _ _ f failed, ?_⟩
    by_contra admitted
    push Not at admitted
    rw [← stmt.block.constants_promotedOuter names label] at admitted
    obtain ⟨t, written⟩ := (scalar.exists_sql_iff s.limits s.dialect
      (s.callText (e.callDepth + s.context.orderDepth) inWindow)).mpr
        fun v hv => admitted v (List.mem_flatMap.mpr ⟨e, he, hv⟩)
    exact absurd (written.symm.trans failed) nofun
  have plain := under.promotedOuter_plain label
  refine ⟨s.selectText_failsOnly text, s.filterText_failsOnly text fun filters => ?_⟩
  simp [plain] at filters

/-- An inner block is written. -/
theorem inner_written (under : s.PromotedUnder stmt names) :
    ∃ select, s.selectText (stmt.block.promotedInner names) = .ok select := by
  have items : FailsOnly (fun _ => False)
      ((stmt.block.promotedInner names).items.mapM (s.itemText false)) := by
    refine .mapM fun item hi => ?_
    obtain ⟨⟨c, name⟩, mem, rfl⟩ := List.mem_map.mp hi
    obtain ⟨inWindow, w, column⟩ := under.exists_windowColumn mem
    exact .of_eq_ok (itemText_of_windowColumn column false name)
  exact (items.bind fun _ _ => .ok _).exists_ok

/-- The inner block adds nothing that fails to what its source is written as. -/
theorem statementText_inner (under : s.PromotedUnder stmt names) :
    ∃ write : String → String,
      s.statementText (stmt.withBlock (stmt.block.promotedInner names)) =
        (s.sourceText (stmt.withBlock (stmt.block.promotedInner names))).map write := by
  obtain ⟨inner, innerText⟩ := under.inner_written
  rw [← stmt.block_withBlock (stmt.block.promotedInner names)] at innerText
  have noFilter :
      s.filterText (stmt.withBlock (stmt.block.promotedInner names)).block = .ok [] := by
    rw [Statement.block_withBlock]
    rfl
  exact ⟨_, statementText_of_block innerText noFilter⟩

/-- Writing the two blocks of a split fails as their source does, or for a constant that is too
long. -/
theorem statementText_failsOnly (under : s.PromotedUnder stmt names)
    (sound : stmt.block.Sound s.catalog) (label : String) :
    FailsOnly (fun e =>
        s.sourceText (stmt.withBlock (stmt.block.promotedInner names)) = .error e ∨
          e.OfLimit s.limits ∧ ∃ v ∈ stmt.block.constants, ¬v.Admitted s.limits)
      (s.statementText (.derived (stmt.block.promotedOuter names label)
        (stmt.withBlock (stmt.block.promotedInner names)))) := by
  obtain ⟨write, inner⟩ := under.statementText_inner
  obtain ⟨select, filter⟩ := under.outer_failsOnly sound label
  refine (select.imp fun _ => .inr).bind fun _ _ => ?_
  refine FailsOnly.bind (fun e failed => .inl ?_) fun _ _ =>
    (filter.imp fun _ => .inr).bind fun _ _ => .ok _
  rwa [inner, map_eq_error] at failed

end PromotedUnder

/-- PostgreSQL over the years of each player. -/
def byYear : Setting := orderedBy ⟨.column "yearID", .asc⟩

/-- The at-bats of a player in all years, for the two years with the most games. -/
def totalOfTop : Statement :=
  .select
    { items := [⟨"total", .call "sum" [.column "AB"] none, false⟩]
      table := some "batting"
      predicate := some (.binary .le (minRank "G") (.literal (.int 2))) }

def totalOfTopMoved : Statement :=
  .derived
    { items := [⟨"total", .column "sum_1", false⟩]
      label := some "tmp"
      predicate := some (.binary .le (.column "rank_1") (.literal (.int 2))) }
    (.select
      { items := [⟨"sum_1", .call "sum" [.column "AB"] none, true⟩, ⟨"rank_1", minRank "G", true⟩]
        selectAll := true
        table := some "batting" })

end Setting

end WindowSql
