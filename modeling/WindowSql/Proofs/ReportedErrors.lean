import WindowSql.Document
import WindowSql.Proofs.AcceptedCalls
import WindowSql.Proofs.FaultTexts
import WindowSql.Proofs.TextLevels

/-!
# Errors that are reported

An error is reported where the text, the document or the statement is to blame for it, and it can be
told. Names and windows that the settings do not give, integers that are too long, and texts that
are nested too deep are errors of another kind:

* `ReportsCalls`: every call that is accepted has names and a text, or is to blame itself;
* `ReportsCalls.compile_failsOnly`: then compilations fail for the statement only, if no integer of
  it is too long;
* `reportsCalls_of_compile`: and this is the only way;
* `errors_reported`: both, for documents and for texts, and settings of which it holds.
-/

namespace WindowSql

/-- A flaw of the text itself, whatever the limits are. -/
def Json.Flaw.Syntactic : Json.Flaw → Prop
  | integerTooLong .. | nestedTooDeep _ => False
  | _ => True

/-- An error that the text, the document or the statement is to blame for. -/
def CompileError.Reported (l : Limits) : CompileError → Prop
  | unreadable _ error => error.flaw.Syntactic
  | noStatement .. => True
  | failure e => e.Reported l

namespace Statement
variable {l : Limits}

theorem admitted_of_unlimited (unlimited : l.digits = none) (stmt : Statement) :
    stmt.Admitted l := fun _ _ _ _ v _ => v.admitted_of_unlimited unlimited

/-- A split adds no constants. -/
theorem Admitted.of_split {s : Setting} {stmt r : Statement} (h : stmt.Admitted l)
    (split : s.split stmt = .ok r) : r.Admitted l := by
  obtain ⟨names, given, rfl⟩ := Setting.split_eq_ok.mp split
  have under := Setting.promotedNames_eq_ok given
  have block := h _ stmt.block_mem_blocks
  have outer : (stmt.block.promotedOuter names s.options.subqueryLabel).Admitted l := by
    intro e he v hv
    rw [Block.exprs_promotedOuter] at he
    obtain ⟨e, mem, rfl⟩ := List.mem_map.mp he
    rcases (Expr.mem_literals _).mp hv with outside | ⟨c, hc, -⟩
    · rw [Block.overPromoted, Expr.outerLiterals_unqualify,
        Expr.outerLiterals_replaceCalls] at outside
      exact block e mem v ((Expr.mem_literals e).mpr (.inl outside))
    · rw [under.calls_overPromoted mem] at hc
      cases hc
  have inner : (stmt.block.promotedInner names).Admitted l := by
    intro e he
    rw [Block.exprs_promotedInner] at he
    obtain ⟨⟨c, name⟩, mem, rfl⟩ := List.mem_map.mp he
    obtain ⟨e, he, hc⟩ := Block.mem_calls.mp (under.key_mem_calls mem)
    exact Expr.admitted_of_mem_calls (block e he) hc
  refine admitted_derived.mpr ⟨outer, ?_⟩
  rw [Admitted, blocks_withBlock]
  exact List.forall_mem_cons.mpr ⟨inner, fun b hb => h b (List.mem_of_mem_tail hb)⟩

theorem Admitted.of_moves {s : Setting} {stmt r : Statement} (h : stmt.Admitted l)
    (run : s.Moves stmt r) : r.Admitted l := by
  induction run with
  | keepSelect | marked => exact h
  | splitSelect _ split => exact h.of_split split
  | keepDerived _ _ _ ih => exact admitted_derived.mpr ((admitted_derived.mp h).imp_right ih)
  | splitDerived _ _ _ split ih =>
    exact (admitted_derived.mpr ((admitted_derived.mp h).imp_right ih)).of_split split

/-- Where a statement is accepted, each of its blocks is. -/
theorem check_of_mem_blocks {catalog : Catalog} {stmt : Statement}
    (h : stmt.check catalog = .ok ()) : ∀ b ∈ stmt.blocks, b.check catalog = .ok () := by
  induction stmt with
  | select b => exact List.forall_mem_singleton.mpr (check_select_eq_ok.mp h).2
  | derived b q ih =>
    obtain ⟨-, source, block⟩ := check_derived_eq_ok.mp h
    exact List.forall_mem_cons.mpr ⟨block, ih source⟩

end Statement

/-- The ordering of the context can be shown, what the check refuses can be told, and every call
that it accepts is named by each of its counters, and is written or to blame itself. All this is
asked of constants that are not too long. -/
structure Setting.ReportsCalls (s : Setting) : Prop where
  described : ∃ ordering, s.context.describeOrder s.limits = .ok ordering
  checked : ∀ b : Block, b.Admitted s.limits →
    FailsOnly (Fault.Reported s.limits) (b.check s.catalog)
  named : ∀ c, s.Accepts c → c.toExpr.Admitted s.limits → ∀ f, s.catalog.get c.func = .ok f →
    ∀ n : Nat, 0 < n → ∃ name, s.options.columnName s.objects f.stem n = .ok name
  written : ∀ c, s.Accepts c → c.toExpr.Admitted s.limits → ∀ inWindow,
    FailsOnly (Failure.Reported s.limits) (s.text inWindow c.toExpr)

namespace Setting.ReportsCalls
variable {s : Setting} (reports : s.ReportsCalls)
include reports

theorem text_failsOnly {e : Expr} {place : Place} (checked : e.check s.catalog place = .ok ())
    (admitted : e.Admitted s.limits) (inWindow : Bool) :
    FailsOnly (Failure.Reported s.limits) (s.text inWindow e) := by
  refine Expr.sql_failsOnly (fun c hc => ?_) (fun v hv => ?_)
    (.inl (Expr.sound_of_check checked).noDesc)
  · have accepted : s.Accepts c := Expr.check_of_mem_calls checked hc
    have written := reports.written c accepted (Expr.admitted_of_mem_calls admitted hc) inWindow
    have ends := written.imp fun _ => Failure.Reported.ne_endless
    rw [callText_eq_text accepted.sound.unnested ends hc]
    exact written
  · have outside := admitted v ((Expr.mem_literals e).mpr (.inl hv))
    exact .of_eq_ok (Dialect.literal_eq_ok.mpr ⟨outside, rfl⟩)

theorem windowColumn_failsOnly {c : Call} (accepted : s.Accepts c)
    (admitted : c.toExpr.Admitted s.limits) (inWindow : Bool) :
    FailsOnly (Failure.Reported s.limits) (s.windowColumn inWindow c) := by
  have written := reports.written c accepted admitted inWindow
  have ends := written.imp fun _ => Failure.Reported.ne_endless
  rw [← windowColumn_sql_eq_text accepted.sound.unnested ends] at written
  intro e failed
  exact written e (map_eq_error.mpr failed)

theorem statementText_failsOnly {stmt : Statement} (checked : stmt.check s.catalog = .ok ())
    (admitted : stmt.Admitted s.limits) :
    FailsOnly (Failure.Reported s.limits) (s.statementText stmt) := by
  refine s.statementText_failsOnly_of_text ?_ ?_ ?_
  · intro b hb e he inWindow
    have shown := admitted b hb e he
    have block := Statement.check_of_mem_blocks checked b hb
    obtain ⟨-, items, predicate⟩ := Block.check_eq_ok.mp block
    rcases List.mem_append.mp he with selected | filter
    · obtain ⟨item, hi, rfl⟩ := List.mem_map.mp selected
      exact reports.text_failsOnly (items item hi) shown inWindow
    · exact reports.text_failsOnly (predicate e (by simpa using filter)) shown inWindow
  · have missing : Fault.Reported s.limits .noSource := Fault.reported_of_bare ⟨_, rfl⟩ rfl
    exact s.tableText_failsOnly missing _
  · intro b hb _ p hp
    have filter : p ∈ b.exprs := by simp [Block.exprs, hp]
    exact Fault.reported_of_fragment ⟨_, rfl⟩ rfl (admitted b hb p filter)

section
variable (apart : ∀ f ∈ s.catalog.functions,
  ∃ field ∈ s.options.fields, field.Distinct s.objects f.stem)
include apart

theorem split_failsOnly {stmt : Statement} (checked : stmt.block.check s.catalog = .ok ())
    (admitted : stmt.block.Admitted s.limits) :
    FailsOnly (Failure.Reported s.limits) (s.split stmt) := by
  have shown (c : Call) (hc : c ∈ stmt.block.calls) : c.toExpr.Admitted s.limits := by
    obtain ⟨e, he, hc⟩ := Block.mem_calls.mp hc
    exact Expr.admitted_of_mem_calls (admitted e he) hc
  have distinct (c : Call) (hc : c ∈ stmt.block.distinctCalls.map Prod.fst) :
      s.Accepts c ∧ c.toExpr.Admitted s.limits :=
    have mem := Block.distinctCalls_subset hc
    ⟨Block.check_of_mem_calls checked mem, shown c mem⟩
  have formats : ∀ c ∈ stmt.block.distinctCalls.map (·.1), ∃ f, s.catalog.get c.func = .ok f ∧
      ∀ n : Nat, 0 < n → ∃ name, s.options.columnName s.objects f.stem n = .ok name := by
    intro c hc
    obtain ⟨accepted, admitted⟩ := distinct c hc
    obtain ⟨f, known, -⟩ := accepted.sound.known
    exact ⟨f, known, reports.named c accepted admitted f known⟩
  obtain ⟨names, named⟩ :=
    exists_nameCalls_of_formats apart ⟨stmt.block.usedNames ++ stmt.sourceNames, []⟩ formats
  refine split_failsOnly_of_windows (.forM fun p hp => ?_) (.of_eq_ok named) (fun p hp => ?_)
    fun p hp => ?_
  · refine Call.checkNested_reported (shown p.1 ?_)
    rw [← Block.map_fst_windowCalls]
    exact List.mem_map_of_mem hp
  · obtain ⟨accepted, admitted⟩ := distinct p.1 (List.mem_map_of_mem hp)
    exact reports.windowColumn_failsOnly accepted admitted p.2
  · obtain ⟨t, described⟩ :=
      (Expr.exists_describe_iff _).mpr (distinct p.1 (List.mem_map_of_mem hp)).2
    exact .of_eq_ok described

/-- A compilation fails for the statement. -/
theorem compile_failsOnly {stmt : Statement} (admitted : stmt.Admitted s.limits) :
    FailsOnly (Failure.Reported s.limits) (s.compile stmt) := by
  have moved (checked : stmt.check s.catalog = .ok ()) :
      FailsOnly (Failure.Reported s.limits) (s.promote? stmt) := by
    refine promote?_failsOnly_of_split
      (I := fun stmt => stmt.check s.catalog = .ok () ∧ stmt.Admitted s.limits) ?_ ?_ ?_
      ⟨checked, admitted⟩
    · rintro b q ⟨checked, admitted⟩
      exact ⟨(Statement.check_derived_eq_ok.mp checked).2.1,
        (Statement.admitted_derived.mp admitted).2⟩
    · rintro b q q' ⟨checked, admitted⟩ run
      obtain ⟨block, source⟩ := Statement.admitted_derived.mp admitted
      exact ⟨Statement.check_over checked run.check,
        Statement.admitted_derived.mpr ⟨block, source.of_moves run⟩⟩
    · rintro stmt ⟨checked, admitted⟩
      have block := Statement.check_of_mem_blocks checked _ stmt.block_mem_blocks
      exact reports.split_failsOnly apart block (admitted _ stmt.block_mem_blocks)
  have prepared : FailsOnly (Failure.Reported s.limits) (s.prepare stmt) := by
    have check : FailsOnly (Fault.Reported s.limits) (stmt.check s.catalog) :=
      Statement.check_reported fun b hb => reports.checked b (admitted b hb)
    refine (FailsOnly.lift check).bind fun _ checked => ?_
    refine (moved (lift_eq_ok.mp checked)).bind fun result run => ?_
    cases result with
    | none => exact .ok _
    | some r =>
      have shown : r.Admitted s.limits := admitted.of_moves (moves_of_promote? run)
      have outer : FailsOnly (Fault.Reported s.limits) r.checkOuter :=
        Statement.checkOuter_reported (shown _ r.block_mem_blocks)
      exact (FailsOnly.lift outer).bind fun _ _ => .ok _
  obtain ⟨ordering, described⟩ := reports.described
  rw [compile_of_describeOrder described]
  refine prepared.bind fun p ended => ?_
  obtain ⟨checked, result, run, -, rfl⟩ := prepare_eq_ok.mp ended
  have run := moves_of_promote? run
  exact (reports.statementText_failsOnly (run.check checked) (admitted.of_moves run)).bind
    fun _ _ => .ok _

end

end Setting.ReportsCalls

/-- The columns of the partition are named, the ordering of the context has no call, every counter
of a stem has a name, and no integer of all this is too long. -/
structure Setting.Plain (s : Setting) : Prop where
  partition : ∃ names, Schema.partitionNames s.context.partition = .ok names
  ordering : ∀ k ∈ s.context.defaultOrder, k.expr.calls = [] ∧ k.expr.Admitted s.limits
  formats : ∀ f ∈ s.catalog.functions, ∀ n : Nat, 0 < n →
    ∃ name, s.options.columnName s.objects f.stem n = .ok name
  functions : ∀ f ∈ s.catalog.functions, f.Admitted s.limits
  limit : ∀ rows ∈ s.context.profile.maxFrameOffset, s.limits.Admits rows

theorem Setting.Plain.writesFlat {s : Setting} (plain : s.Plain) {c : Call}
    (unnested : c.nested? = none) (inWindow : Bool) : s.WritesFlat inWindow c := by
  refine (writesFlat_iff unnested).mpr ?_
  rintro k ⟨f, category, w, -, -, given⟩
  exact (plain.ordering k (Call.defaultOrder_of_contextKey? given)).1

/-- An expression without calls is written, or a `desc` in it is to blame. -/
theorem Expr.sql_reported {l : Limits} {e : Expr} (admitted : e.Admitted l) (flat : e.calls = [])
    (d : Dialect) (call : Call → Except Failure String) :
    FailsOnly (Failure.Reported l) (e.sql l d call) := by
  induction e with
  | column name => exact .ok _
  | literal v =>
    have shown := admitted v (List.mem_singleton_self v)
    exact .liftLong (.of_eq_ok (Dialect.literal_eq_ok.mpr ⟨shown, rfl⟩))
  | call func args orderBy => cases flat
  | binary op a b iha ihb =>
    obtain ⟨left, right⟩ := List.forall_mem_append.mp admitted
    obtain ⟨leftFlat, rightFlat⟩ := List.append_eq_nil_iff.mp flat
    exact (iha left leftFlat).bind fun _ _ => (ihb right rightFlat).bind fun _ _ => .ok _
  | desc e => exact .error (Fault.reported_of_fragment ⟨_, rfl⟩ rfl admitted)

/-- What stands in the window of a call has no constants but those of the call and of the ordering
of the context. -/
theorem Setting.Plain.admitted_inside {s : Setting} (plain : s.Plain) {c : Call}
    (admitted : c.toExpr.Admitted s.limits) {f : WindowFunction} {inWindow : Bool}
    {category : Category} {w : Window}
    (window : c.window f s.context inWindow = .ok (category, w)) {e : Expr}
    (he : e ∈ c.inside f w) : e.Admitted s.limits := by
  rcases Call.inside_cases window he with ⟨k, given, rfl⟩ | ⟨part, own, same⟩ | ⟨name, -, rfl⟩
  · exact (plain.ordering k (Call.defaultOrder_of_contextKey? given)).2
  · have shown := Expr.admitted_of_mem_call admitted own
    rcases same with rfl | rfl
    · exact shown
    · rwa [Expr.Admitted, part.literals_stripDesc]
  · exact fun v hv => nomatch hv

theorem Setting.Plain.reportsCalls {s : Setting} (plain : s.Plain) : s.ReportsCalls where
  described := by
    unfold Context.describeOrder
    cases given : s.context.defaultOrder with
    | none => exact ⟨_, rfl⟩
    | some k =>
      obtain ⟨text, described⟩ := k.expr.exists_describe_iff.mpr (plain.ordering k given).2
      have key : ∃ t, k.describe s.limits = .ok t := by
        rw [OrderKey.describe, described]
        exact ⟨_, rfl⟩
      obtain ⟨t, shown⟩ := key
      exact ⟨[t], mapM_eq_ok.mpr (.cons shown .nil)⟩
  checked _ admitted := Block.check_reported plain.functions admitted
  named _ _ _ f known := plain.formats f (Catalog.mem_of_get known)
  written c accepted admitted inWindow := by
    have unnested := accepted.sound.unnested
    obtain ⟨f, known, -⟩ := accepted.sound.known
    have bounds := plain.functions f (Catalog.mem_of_get known)
    have flat := plain.writesFlat unnested inWindow
    rw [text_toExpr unnested, callText, known, lift_ok, ok_bind]
    refine FailsOnly.bind (Call.windowColumn_failsOnly_of_inside ?_ ?_ ?_ ?_) fun _ _ => .ok _
    · exact Call.window_reported plain.partition plain.limit bounds admitted inWindow
    · intro category w window e he
      exact Expr.sql_reported (plain.admitted_inside admitted window he)
        (flat f category w known window e he) _ _
    · exact Fault.reported_of_bare ⟨_, rfl⟩ rfl
    · intro category w window
      obtain ⟨clause, framed⟩ := Window.exists_frameClause bounds window s.context.profile.frames
      exact .of_eq_ok framed

/-! ## All errors -/

namespace Setting
variable {s : Setting} {c : Call}

theorem admitted_selected (admitted : c.toExpr.Admitted s.limits) (inWindow : Bool) :
    (c.selected inWindow).Admitted s.limits := by
  refine Statement.admitted_select.mpr fun e he => ?_
  obtain rfl := List.mem_singleton.mp he
  exact admitted

theorem admitted_orderedBy (admitted : c.toExpr.Admitted s.limits) (column : String) :
    (c.orderedBy column).toExpr.Admitted s.limits := by
  intro v hv
  obtain ⟨e, he, hv⟩ := Expr.mem_literals_call.mp hv
  rcases List.mem_append.mp he with argument | key
  · exact Expr.admitted_of_mem_call admitted (List.mem_append_left _ argument) v hv
  · obtain rfl := List.mem_singleton.mp key
    cases hv

theorem admitted_filterOn {calls : List Call} (h : ∀ c ∈ calls, c.toExpr.Admitted s.limits) :
    (filterOn calls).Admitted s.limits := by
  refine Statement.admitted_select.mpr fun e he => ?_
  obtain rfl := List.mem_singleton.mp he
  induction calls with
  | nil =>
    intro v hv
    obtain rfl := List.mem_singleton.mp hv
    trivial
  | cons c rest ih =>
    obtain ⟨first, others⟩ := List.forall_mem_cons.mp h
    exact List.forall_mem_append.mpr ⟨first, ih others List.mem_cons_self⟩

/-- Where no compilation fails for a name, every counter of an accepted call has one. -/
theorem exists_name_of_filterOn {ordering : List String}
    (described : s.context.describeOrder s.limits = .ok ordering) (accepted : s.Accepts c)
    {f : WindowFunction} (known : s.catalog.get c.func = .ok f) {n : Nat} (positive : 0 < n)
    (reported : FailsOnly (Failure.Reported s.limits) (s.compile (filterOn (orderings c n)))) :
    ∃ name, s.options.columnName s.objects f.stem n = .ok name := by
  have each : ∀ c' ∈ orderings c n, s.Accepts c' ∧ c'.func = c.func := by
    intro c' hc'
    obtain ⟨i, -, rfl⟩ := List.mem_map.mp hc'
    exact ⟨accepted.orderedBy _, rfl⟩
  have count : (orderings c n).length = n := by simp [orderings]
  have some : orderings c n ≠ [] := by
    rw [← List.length_pos_iff, count]
    exact positive
  cases named : s.nameCalls (filterSupply (orderings c n)) (orderings c n) with
  | error e =>
    have failed := compile_filterOn_eq_error described (fun c' hc' => (each c' hc').1)
      (pairwise_orderings c n) some named
    obtain ⟨fault, rfl⟩ := nameCalls_failsOnly (fun c' hc' => (each c' hc').1.sound) _ e named
    exact (reported _ failed).elim
  | ok names =>
    refine nameCalls_counters named (fun c' hc' => ⟨f, ?_, rfl⟩) ?_ ?_
    · rw [(each c' hc').2, known]
    · exact positive
    · rw [count]
      show n < 0 + 1 + n
      omega

/-- Where compilations fail for the statement only, so do those of an empty one, of a block, and of
statements that select an accepted call or filter on its orderings. -/
theorem reportsCalls_of_compile (reported : ∀ stmt : Statement, stmt.Admitted s.limits →
    FailsOnly (Failure.Reported s.limits) (s.compile stmt)) : s.ReportsCalls := by
  have described : ∃ ordering, s.context.describeOrder s.limits = .ok ordering := by
    cases shown : s.context.describeOrder s.limits with
    | ok ordering => exact ⟨ordering, rfl⟩
    | error f =>
      have failed : s.compile (.select {}) = .error (.longInteger f) := by
        rw [compile, shown]
        rfl
      have empty : (Statement.select {}).Admitted s.limits :=
        Statement.admitted_select.mpr (List.forall_mem_nil _)
      exact (reported _ empty _ failed).elim
  obtain ⟨ordering, shown⟩ := described
  refine ⟨⟨ordering, shown⟩, ?_, ?_, ?_⟩
  · intro b admitted f refused
    have onTable : Block.Admitted s.limits { b with table := some "source" } := admitted
    have failed : s.compile (.select { b with table := some "source" }) = .error (.fault f) := by
      have check : (Statement.select { b with table := some "source" }).check s.catalog =
          .error f := refused
      rw [compile_of_describeOrder shown, prepare, check]
      rfl
    exact reported _ (Statement.admitted_select.mpr onTable) _ failed
  · intro c accepted admitted f known n positive
    refine exists_name_of_filterOn shown accepted known positive (reported _ ?_)
    refine admitted_filterOn fun c' hc' => ?_
    obtain ⟨i, -, rfl⟩ := List.mem_map.mp hc'
    exact admitted_orderedBy admitted _
  · intro c accepted admitted inWindow e failed
    exact reported _ (admitted_selected admitted inWindow) e
      (compile_selected_eq_error shown accepted failed)

def selectConstant (v : Literal) : Statement :=
  .select { items := [⟨"x", .literal v, false⟩], table := some "batting" }

/-- Selecting a constant fails as the constant does. -/
theorem compile_selectConstant {ordering : List String}
    (described : s.context.describeOrder s.limits = .ok ordering) (v : Literal) :
    ∃ write : String → Compiled, s.compile (selectConstant v) =
      (LongInteger.lift (s.dialect.literal s.limits v)).map write := by
  let select (text : String) : String :=
    "SELECT " ++ ", ".intercalate [text ++ " AS " ++ s.dialect.quote "x"]
  have item : s.itemText false ⟨"x", .literal v, false⟩ =
      (LongInteger.lift (s.dialect.literal s.limits v)).map
        fun text => text ++ " AS " ++ s.dialect.quote "x" := rfl
  have prepared : s.prepare (selectConstant v) = .ok (selectConstant v, false) := rfl
  refine ⟨fun text => ⟨"\n".intercalate [select text, "FROM " ++ s.dialect.reference "batting"],
    s.dialect.name, selectConstant v, false⟩, ?_⟩
  rw [compile_of_describeOrder described, prepared, ok_bind]
  simp only [selectConstant, statementText, selectText, List.mapM_cons, List.mapM_nil, item]
  cases s.dialect.literal s.limits v <;> rfl

theorem compileRead_failsOnly (text : Option String) {document : Json}
    (reported : ∀ stmt, Schema.statement document = .ok stmt →
      FailsOnly (Failure.Reported s.limits) (s.compile stmt)) :
    FailsOnly (CompileError.Reported s.limits) (s.compileRead text document) := by
  unfold compileRead
  split
  · exact .error trivial
  · rename_i stmt decoded
    exact .mapError (reported stmt (Schema.named_eq_ok.mp decoded))

/-- Every statement is compiled as a document. -/
theorem compileDocument_encodeStatement (s : Setting) (stmt : Statement) :
    s.compileDocument (Schema.encodeStatement stmt) = (s.compile stmt).mapError .failure := by
  rw [compileDocument, compileRead, Schema.statement_encodeStatement]
  rfl

theorem compileDocument_longInteger {ordering : List String}
    (described : s.context.describeOrder s.limits = .ok ordering) {most : Nat}
    (limit : s.limits.digits = some most) :
    s.compileDocument (Schema.encodeStatement (selectConstant (.int (10 ^ most)))) =
      .error (.failure (.longInteger ⟨most⟩)) := by
  obtain ⟨write, selected⟩ := compile_selectConstant described (.int (10 ^ most))
  rw [compileDocument_encodeStatement, selected, Dialect.literal, s.limits.text_pow limit]
  rfl

/-- **Errors of compilations.** Where a field of the template tells the counters of every function
apart, all errors of compiling documents without integers that are too long are reported exactly
where the ordering of the context is shown, faults are told, and every call that the check accepts
has a name for each of its counters and a text, or a fault of its own. All errors of documents are
reported exactly where besides no integer is too long. An error of compiling a text is reported
unless an integer in it is too long to be read, or it is nested too deep. It holds where the
partition is by named columns, the ordering of the context has no call, every counter has a name,
and no integer of the setting is too long. -/
theorem errors_reported (s : Setting) (apart : ∀ f ∈ s.catalog.functions,
      ∃ field ∈ s.options.fields, field.Distinct s.objects f.stem) :
    ((∀ document,
        (∀ stmt, Schema.statement document = .ok stmt → stmt.Admitted s.limits) →
        ∀ e, s.compileDocument document = .error e → e.Reported s.limits) ↔ s.ReportsCalls) ∧
    ((∀ document e, s.compileDocument document = .error e → e.Reported s.limits) ↔
      s.ReportsCalls ∧ s.limits.digits = none) ∧
    (s.ReportsCalls → ∀ text e, s.compileText text = .error e →
      (e.Reported s.limits ↔ ∀ error, Json.read s.limits text = .error error →
        error.flaw.Syntactic)) ∧
    (s.Plain → s.ReportsCalls) := by
  have documents (reported : ∀ document,
      (∀ stmt, Schema.statement document = .ok stmt → stmt.Admitted s.limits) →
        ∀ e, s.compileDocument document = .error e → e.Reported s.limits) : s.ReportsCalls := by
    apply reportsCalls_of_compile
    intro stmt admitted e failed
    have document : s.compileDocument (Schema.encodeStatement stmt) = .error (.failure e) := by
      rw [compileDocument_encodeStatement, failed]
      rfl
    refine reported _ (fun stmt' decoded => ?_) _ document
    obtain rfl := Except.ok.inj ((Schema.statement_encodeStatement stmt).symm.trans decoded)
    exact admitted
  have admitted (reports : s.ReportsCalls) (text : Option String) (document : Json)
      (h : ∀ stmt, Schema.statement document = .ok stmt → stmt.Admitted s.limits) :
      FailsOnly (CompileError.Reported s.limits) (s.compileRead text document) :=
    compileRead_failsOnly text fun stmt decoded => reports.compile_failsOnly apart (h stmt decoded)
  refine ⟨⟨documents, fun reports document => admitted reports none document⟩, ⟨?_, ?_⟩, ?_,
    Plain.reportsCalls⟩
  · intro reported
    have reports := documents fun document _ => reported document
    refine ⟨reports, Option.eq_none_iff_forall_ne_some.mpr fun most limit => ?_⟩
    obtain ⟨ordering, described⟩ := reports.described
    exact reported _ _ (compileDocument_longInteger described limit)
  · rintro ⟨reports, unlimited⟩ document
    exact admitted reports none document fun stmt _ => stmt.admitted_of_unlimited unlimited
  · intro reports text e failed
    unfold compileText at failed
    split at failed
    · rename_i error unread
      cases failed
      simp [CompileError.Reported, unread]
    · rename_i document read
      have reported := admitted reports (some text) document
        (fun stmt decoded => Statement.admitted_of_read read decoded) e failed
      simp [read, reported]

/-- With the default options and a context of no columns and no ordering, all errors are reported
but for integers that are too long and texts that are nested too deep. -/
theorem errors_reported_postgres :
    (∀ f ∈ postgres.catalog.functions,
      ∃ field ∈ postgres.options.fields, field.Distinct postgres.objects f.stem) ∧
    postgres.Plain ∧
    (∀ document,
      (∀ stmt, Schema.statement document = .ok stmt → stmt.Admitted postgres.limits) →
      ∀ e, postgres.compileDocument document = .error e → e.Reported postgres.limits) ∧
    (¬∀ document e, postgres.compileDocument document = .error e → e.Reported postgres.limits) ∧
    ∀ text e, postgres.compileText text = .error e →
      (e.Reported postgres.limits ↔ ∀ error, Json.read postgres.limits text = .error error →
        error.flaw.Syntactic) := by
  have apart : ∀ f ∈ postgres.catalog.functions,
      ∃ field ∈ postgres.options.fields, field.Distinct postgres.objects f.stem := fun f _ =>
    ⟨_, Options.counter_mem_fields_default, Template.Field.counter_distinct postgres.objects f.stem⟩
  have functions : ∀ f ∈ postgres.catalog.functions, f.Admitted postgres.limits :=
    WindowFunction.admitted_of_mem_builtin
  have plain : postgres.Plain :=
    ⟨⟨[], rfl⟩, nofun, fun f _ n _ => ⟨_, rfl⟩, functions, nofun⟩
  obtain ⟨documents, all, texts, reliable⟩ := postgres.errors_reported apart
  have reports := reliable plain
  refine ⟨apart, plain, documents.mpr reports, fun reported => ?_, texts reports⟩
  cases (all.mp reported).2

theorem unknownField_counts : hasPart counterField "\x7bn\x7d\x7bfoo\x7d".toList = true := by
  decide

/-- Options with a field in the template that stands for nothing. -/
def unknownField : Options :=
  ⟨"tmp", "\x7bn\x7d\x7bfoo\x7d", Options.tmp_nonempty, unknownField_counts⟩

/-- PostgreSQL with names by those options. -/
def withUnknownField : Setting := { postgres with options := unknownField }

/-- PostgreSQL over the groups of a column that is no name. -/
def byNumber : Setting := { postgres with context := { partition := [.int 5] } }

/-- Options and contexts that are accepted, and an error of each kind that is not reported: no name
can be made for a rank, its window has no partition, a running sum is ordered by itself, an integer
is too long to be written or to be read, and a text is nested too deep. -/
theorem errors_unreported :
    Options.make "tmp" "\x7bn\x7d\x7bfoo\x7d" = .ok unknownField ∧
    withUnknownField.compileDocument (Schema.encodeStatement topTwo) =
      .error (.failure (.naming (.template (.unknownName "foo")))) ∧
    Context.make (.several [.int 5]) (.several []) {} = .ok byNumber.context ∧
    byNumber.compileDocument (Schema.encodeStatement topTwo) =
      .error (.failure (.window ⟨"Clause", [⟨[.field "partition_by", .index 0], .notString⟩]⟩)) ∧
    Context.make (.one "playerID") (.key ⟨.call "cumsum" [.column "G"] none, .asc⟩) {} =
      .ok (orderedBy ⟨.call "cumsum" [.column "G"] none, .asc⟩).context ∧
    (orderedBy ⟨.call "cumsum" [.column "G"] none, .asc⟩).compileDocument
      (Schema.encodeStatement selectPrevious) = .error (.failure .endlessOrdering) ∧
    postgres.compileDocument (Schema.encodeStatement (selectConstant (.int (10 ^ 4300)))) =
      .error (.failure (.longInteger ⟨4300⟩)) ∧
    postgres.compileText (String.ofList (List.replicate 4301 '1')) = .error
      (.unreadable (String.ofList (List.replicate 4301 '1')) ⟨.integerTooLong 4300 4301, 0⟩) ∧
    postgres.compileText (String.ofList (List.replicate 991 '[')) = .error
      (.unreadable (String.ofList (List.replicate 991 '[')) ⟨.nestedTooDeep "array", 990⟩) ∧
    (∀ e : CompileError, e ∈
      [.failure (.naming (.template (.unknownName "foo"))),
        .failure (.window ⟨"Clause", [⟨[.field "partition_by", .index 0], .notString⟩]⟩),
        .failure .endlessOrdering,
        .failure (.longInteger ⟨4300⟩),
        .unreadable (String.ofList (List.replicate 4301 '1')) ⟨.integerTooLong 4300 4301, 0⟩,
        .unreadable (String.ofList (List.replicate 991 '[')) ⟨.nestedTooDeep "array", 990⟩] →
      ¬e.Reported postgres.limits) := by
  refine ⟨rfl, ?_, rfl, ?_, rfl, ?_, ?_, ?_, ?_, ?_⟩
  · rw [compileDocument_encodeStatement]
    rfl
  · rw [compileDocument_encodeStatement]
    rfl
  · rw [compileDocument_encodeStatement]
    rfl
  · have described : postgres.context.describeOrder postgres.limits = .ok [] := rfl
    exact compileDocument_longInteger described rfl
  · rw [compileText, Json.read_ones rfl (by decide)]
  · rw [compileText, Json.read_brackets (by decide)]
    rfl
  · intro e kind
    simp only [List.mem_cons, List.not_mem_nil, or_false] at kind
    rcases kind with rfl | rfl | rfl | rfl | rfl | rfl <;> exact id

end Setting

end WindowSql
