import WindowSql.Proofs.LiteralText
import WindowSql.Proofs.PromotedColumns
import WindowSql.Proofs.Windows

/-!
# Shared columns

When two calls that share a promoted column are the same window:

* `Call.Parallel`: calls that are the same part by part and hold no calls;
* `windowColumn_parallel`: parallel calls are written alike, and by the same text exactly when the
  literals that are written for them are;
* `shared_column_iff`: every call of a split statement stands for a promoted call it is parallel to;
* `halves_share_column`: an integer and a float division share a column and are written differently.
-/

namespace WindowSql

theorem isEmpty_eq_of_forall₂ {α β : Type} {R : α → β → Prop} {as : List α} {bs : List β}
    (h : List.Forall₂ R as bs) : as.isEmpty = bs.isEmpty := by
  cases h <;> rfl

theorem eq_of_isEmpty {α : Type} {as bs : List α} (same : as.isEmpty = bs.isEmpty)
    (empty : as.isEmpty = true) : as = bs := by
  have empty' : bs.isEmpty = true := same ▸ empty
  rw [List.isEmpty_iff.mp empty, List.isEmpty_iff.mp empty']

namespace Expr

/-- Expressions that are the same and hold no calls. -/
structure Parallel (a b : Expr) : Prop where
  same : a.same b = true
  noCalls : a.calls = []
  noCalls' : b.calls = []

theorem sameAll_eq_true_iff {as bs : List Expr} :
    sameAll as bs = true ↔ List.Forall₂ (fun a b => a.same b = true) as bs := by
  induction as generalizing bs with
  | nil => cases bs <;> simp [sameAll]
  | cons a as ih => cases bs <;> simp [sameAll, ih]

theorem parallel_of_sameAll {as bs : List Expr} (same : sameAll as bs = true)
    (noCalls : ∀ a ∈ as, a.calls = []) (noCalls' : ∀ b ∈ bs, b.calls = []) :
    List.Forall₂ Parallel as bs := by
  have pairs := sameAll_eq_true_iff.mp same
  induction pairs with
  | nil => exact .nil
  | cons first later ih =>
    rw [List.forall_mem_cons] at noCalls noCalls'
    refine .cons ⟨first, noCalls.1, noCalls'.1⟩ ?_
    exact ih (sameAll_eq_true_iff.mpr later) noCalls.2 noCalls'.2

theorem Parallel.isLiteral {a b : Expr} (h : a.Parallel b) : a.isLiteral = b.isLiteral := by
  have same := h.same
  cases a <;> cases b <;> simp_all [Expr.same, Expr.isLiteral]

/-- The ordering keys of parallel expressions order alike. -/
theorem Parallel.orderKey {a b : Expr} (h : a.Parallel b) :
    a.orderKey.expr.Parallel b.orderKey.expr ∧ a.orderKey.direction = b.orderKey.direction := by
  have same := h.same
  induction a generalizing b with
  | desc e ih =>
    cases b with
    | desc e' =>
      have below : e.Parallel e' := ⟨h.same, h.noCalls, h.noCalls'⟩
      obtain ⟨exprs, directions⟩ := ih below same
      exact ⟨exprs, congrArg Direction.flip directions⟩
    | _ => simp [Expr.same] at same
  | _ =>
    cases b <;> first | exact ⟨h, rfl⟩ | simp [Expr.same] at same

theorem callDepth_eq_zero {e : Expr} (h : e.calls = []) : e.callDepth = 0 := by
  induction e with
  | column name => rfl
  | literal v => rfl
  | call f as o => simp [calls] at h
  | binary op l r ihl ihr =>
    simp only [calls, List.append_eq_nil_iff] at h
    simp [callDepth, ihl h.1, ihr h.2]
  | desc e ih => exact ih h

theorem callDepthAll_eq_zero {es : List Expr} (h : ∀ e ∈ es, e.calls = []) :
    callDepthAll es = 0 := by
  induction es with
  | nil => rfl
  | cons e rest ih =>
    rw [List.forall_mem_cons] at h
    simp [callDepthAll, callDepth_eq_zero h.1, ih h.2]

end Expr

/-- One key of the context, or keys that order by parallel expressions in one direction. -/
def OrderKey.Parallel (k k' : OrderKey) : Prop :=
  k = k' ∨ k.expr.Parallel k'.expr ∧ k.direction = k'.direction

namespace Call

/-- Calls of one function whose arguments and ordering are parallel. -/
structure Parallel (c c' : Call) : Prop where
  func : c.func = c'.func
  args : List.Forall₂ Expr.Parallel c.args c'.args
  keys : List.Forall₂ Expr.Parallel c.keys c'.keys

theorem parallel_of_same {c c' : Call} (same : c.same c' = true) (unnested : c.nested? = none)
    (unnested' : c'.nested? = none) : c.Parallel c' := by
  obtain ⟨noCalls, noKeyCalls⟩ := c.nested?_eq_none_iff.mp unnested
  obtain ⟨noCalls', noKeyCalls'⟩ := c'.nested?_eq_none_iff.mp unnested'
  obtain ⟨func, args, orderBy⟩ := c
  obtain ⟨func', args', orderBy'⟩ := c'
  cases orderBy with
  | none =>
    cases orderBy' with
    | none =>
      simp only [Call.same, toExpr, Expr.same, Bool.and_eq_true, beq_iff_eq] at same
      exact ⟨same.1, Expr.parallel_of_sameAll same.2 noCalls noCalls', .nil⟩
    | some ls => simp [Call.same, toExpr, Expr.same] at same
  | some ks =>
    cases orderBy' with
    | none => simp [Call.same, toExpr, Expr.same] at same
    | some ls =>
      simp only [Call.same, toExpr, Expr.same, Bool.and_eq_true, beq_iff_eq] at same
      obtain ⟨⟨func, args⟩, keys⟩ := same
      exact ⟨func, Expr.parallel_of_sameAll args noCalls noCalls',
        Expr.parallel_of_sameAll keys noKeyCalls noKeyCalls'⟩

/-- A call that holds no calls is one level deep. -/
theorem callDepth_toExpr {c : Call} (unnested : c.nested? = none) : c.toExpr.callDepth = 1 := by
  obtain ⟨noCalls, noKeyCalls⟩ := c.nested?_eq_none_iff.mp unnested
  obtain ⟨func, args, orderBy⟩ := c
  cases orderBy with
  | none => simp [toExpr, Expr.callDepth, Expr.callDepthAll_eq_zero noCalls]
  | some ks =>
    have keys : Expr.callDepthAll ks = 0 := Expr.callDepthAll_eq_zero noKeyCalls
    simp [toExpr, Expr.callDepth, Expr.callDepthAll_eq_zero noCalls, keys]

namespace Parallel
variable {c c' : Call}

theorem keyArgument? (h : c.Parallel c') (f : WindowFunction) :
    Option.Rel Expr.Parallel (c.keyArgument? f) (c'.keyArgument? f) := by
  have args := h.args
  unfold Call.keyArgument?
  generalize c.args = as, c'.args = bs at args ⊢
  split
  · cases args with
    | nil => exact .none
    | cons first _ =>
      simp only [List.head?_cons, Option.filter_some, first.isLiteral]
      split
      · exact .some first
      · exact .none
  · exact .none

theorem lastResort? (h : c.Parallel c') (f : WindowFunction) :
    Option.Rel Expr.Parallel (c.lastResort? f) (c'.lastResort? f) := by
  have found {as bs : List Expr} (args : List.Forall₂ Expr.Parallel as bs) :
      Option.Rel Expr.Parallel (as.find? (!·.isLiteral)) (bs.find? (!·.isLiteral)) := by
    induction args with
    | nil => exact .none
    | cons first _ ih =>
      simp only [List.find?_cons, first.isLiteral]
      split
      · exact .some first
      · exact ih
  unfold Call.lastResort?
  split
  · exact found h.args
  · exact .none

theorem writtenArgs (h : c.Parallel c') (f : WindowFunction) :
    List.Forall₂ Expr.Parallel (c.writtenArgs f) (c'.writtenArgs f) := by
  have key : (c.keyArgument? f).isSome = (c'.keyArgument? f).isSome := by
    have keys := h.keyArgument? f
    generalize c.keyArgument? f = a, c'.keyArgument? f = b at keys ⊢
    cases keys <;> rfl
  have tails : List.Forall₂ Expr.Parallel c.args.tail c'.args.tail := by
    have args := h.args
    generalize c.args = as, c'.args = bs at args ⊢
    cases args with
    | nil => exact .nil
    | cons _ later => exact later
  unfold Call.writtenArgs
  rw [key]
  split_ifs
  exacts [.nil, tails, h.args, h.args]

theorem keys_isEmpty (h : c.Parallel c') : c.keys.isEmpty = c'.keys.isEmpty :=
  isEmpty_eq_of_forall₂ h.keys

theorem ordering (h : c.Parallel c') (f : WindowFunction) (context : Context) :
    List.Forall₂ OrderKey.Parallel (c.ordering f context) (c'.ordering f context) := by
  have alike {a b : Expr} (hab : a.Parallel b) : OrderKey.Parallel a.orderKey b.orderKey :=
    .inr hab.orderKey
  have all {as bs : List Expr} (keys : List.Forall₂ Expr.Parallel as bs) :
      List.Forall₂ OrderKey.Parallel (as.map (·.orderKey)) (bs.map (·.orderKey)) := by
    rw [List.forall₂_map_left_iff, List.forall₂_map_right_iff]
    exact keys.imp fun _ _ => alike
  have argument := h.keyArgument? f
  have keys := h.keys
  have resort := h.lastResort? f
  unfold Call.ordering
  generalize c.keyArgument? f = a, c'.keyArgument? f = b at argument ⊢
  generalize c.keys = ks, c'.keys = ls at keys ⊢
  cases argument with
  | some first => exact .cons (alike first) .nil
  | none =>
    cases keys with
    | cons first later => exact all (.cons first later)
    | nil =>
      cases context.defaultOrder with
      | some k => exact .cons (.inl rfl) .nil
      | none =>
        generalize c.lastResort? f = a, c'.lastResort? f = b at resort ⊢
        cases resort with
        | some last => exact .cons (alike last) .nil
        | none => exact .nil

theorem category (h : c.Parallel c') {f : WindowFunction} {context : Context} {inWindow : Bool}
    {category : Category} (run : c.category f context inWindow = .ok category) :
    c'.category f context inWindow = .ok category := by
  unfold Call.category at run ⊢
  rw [← h.keys_isEmpty]
  split_ifs at run ⊢ with plain windowed
  · exact run
  · exact run

theorem windowOrdering (h : c.Parallel c') (f : WindowFunction) (context : Context)
    (category : Category) :
    List.Forall₂ OrderKey.Parallel (c.windowOrdering f context category)
      (c'.windowOrdering f context category) := by
  unfold Call.windowOrdering
  rw [← h.keys_isEmpty]
  split_ifs
  · exact .nil
  · exact h.ordering f context

theorem frame (h : c.Parallel c') (f : WindowFunction) (category : Category) (profile : Profile)
    (ordered : Bool) :
    c.frame f category profile ordered = c'.frame f category profile ordered := by
  rw [Call.frame, Call.frame, h.func]

/-- Parallel calls have windows that differ in their keys at most. -/
theorem window (h : c.Parallel c') {f : WindowFunction} {context : Context} {inWindow : Bool}
    {category : Category} {w : Window}
    (run : c.window f context inWindow = .ok (category, w)) :
    ∃ keys, c'.window f context inWindow = .ok (category, { w with orderBy := keys }) ∧
      List.Forall₂ OrderKey.Parallel w.orderBy keys := by
  obtain ⟨found, ordered, orderBy, frame, partition⟩ := window_eq_ok.mp run
  have keys := h.windowOrdering f context category
  have empty := isEmpty_eq_of_forall₂ keys
  refine ⟨c'.windowOrdering f context category, window_eq_ok.mpr ?_, by rwa [orderBy]⟩
  refine ⟨h.category found, by rwa [← empty], rfl, ?_, partition⟩
  rwa [← h.frame, ← empty, ← orderBy]

end Parallel

end Call

theorem intercalate_middle_inj {sep x y : String} (before after : List String) :
    sep.intercalate (before ++ x :: after) = sep.intercalate (before ++ y :: after) ↔ x = y := by
  induction before with
  | nil =>
    cases after with
    | nil => simp
    | cons => simp [String.intercalate_cons_cons, String.append_left_inj]
  | cons first rest ih =>
    have nonempty (z : String) : rest ++ z :: after ≠ [] := by simp
    rw [List.cons_append, List.cons_append, String.intercalate_cons_of_ne_nil (nonempty x),
      String.intercalate_cons_of_ne_nil (nonempty y), String.append_right_inj, ih]

def Call.literalTexts (d : Dialect) (f : WindowFunction) (c : Call) : List String :=
  (c.writtenArgs f).flatMap (·.literalTexts d)

def Window.literalTexts (d : Dialect) (w : Window) : List String :=
  w.orderBy.flatMap (·.expr.literalTexts d)

theorem OrderKey.Parallel.alike {k k' : OrderKey} (h : OrderKey.Parallel k k') (l : Limits)
    (d : Dialect) (call : Call → Except Failure String) :
    Alike (OrderKey.sql (Expr.sql l d call)) (·.expr.literalTexts d) k k' := by
  rcases h with rfl | ⟨exprs, directions⟩
  · exact .refl _ _ _
  · intro t ht
    obtain ⟨x, hx, rfl⟩ := map_eq_ok.mp ht
    obtain ⟨x', hx', differ⟩ := Expr.alike_of_same l d call exprs.same exprs.noCalls x hx
    refine ⟨_, map_eq_ok.mpr ⟨x', hx', rfl⟩, ?_⟩
    rw [← directions]
    cases k.direction with
    | asc => exact differ
    | desc => exact differ.closed (.of_head rfl rfl)

section
variable {l : Limits} {d : Dialect} {call : Call → Except Failure String}

theorem Window.sql_parallel {frames : Bool} {w : Window} {keys : List OrderKey}
    (alike : List.Forall₂ OrderKey.Parallel w.orderBy keys) {t : String}
    (h : w.sql l d (Expr.sql l d call) frames = .ok t) :
    ∃ t', Window.sql l d (Expr.sql l d call) frames { w with orderBy := keys } = .ok t' ∧
      (t = t' ↔ w.literalTexts d = Window.literalTexts d { w with orderBy := keys }) := by
  obtain ⟨ts, frame, written, framed, rfl⟩ := Window.sql_eq_ok.mp h
  have each := alike.imp fun _ _ pair => pair.alike l d call
  obtain ⟨ts', written', empty, differ⟩ := Alike.list each written
  refine ⟨_, Window.sql_eq_ok.mpr ⟨ts', frame, written', framed, rfl⟩, ?_⟩
  rw [Window.literalTexts, Window.literalTexts, ← differ.eq_iff]
  unfold Window.clauses
  rw [← empty]
  by_cases unordered : ts.isEmpty = true
  · rw [eq_of_isEmpty empty unordered]
    exact iff_of_true rfl rfl
  · rw [if_neg unordered, if_neg unordered, List.append_assoc, List.append_assoc,
      List.singleton_append, List.singleton_append, intercalate_middle_inj,
      String.append_right_inj]

theorem Call.Parallel.functionSql {c c' : Call} (h : c.Parallel c') {f : WindowFunction}
    {t : String} (run : c.functionSql d (Expr.sql l d call) f = .ok t) :
    ∃ t', c'.functionSql d (Expr.sql l d call) f = .ok t' ∧
      (t = t' ↔ c.literalTexts d f = c'.literalTexts d f) := by
  obtain ⟨name, ts, spelled, written, rfl⟩ := functionSql_eq_ok.mp run
  have args := (h.writtenArgs f).imp fun _ _ pair =>
    Expr.alike_of_same l d call pair.same pair.noCalls
  obtain ⟨ts', written', empty, differ⟩ := Alike.list args written
  refine ⟨_, functionSql_eq_ok.mpr ⟨name, ts', spelled, written', rfl⟩, ?_⟩
  rw [literalTexts, literalTexts, ← differ.eq_iff, ← empty]
  split
  · rename_i star
    have noArgs : ts.isEmpty = true := (Bool.and_eq_true_iff.mp star).1
    rw [eq_of_isEmpty empty noArgs]
    exact iff_of_true rfl rfl
  · have close : ∀ rest, Stops (")" ++ rest) := .of_head rfl rfl
    rw [(((differ.prepend "(").closed close).prepend name).eq_iff, differ.eq_iff]

end

/-- Parallel calls are written in one setting alike. The texts of their functions, and those of
their windows, are equal exactly when the literals in them are written by the same texts. -/
theorem Setting.windowColumn_parallel {s : Setting} {c c' : Call} (same : c.same c' = true)
    (unnested : c.nested? = none) (unnested' : c'.nested? = none) {inWindow : Bool}
    {w : WindowColumn} (h : s.windowColumn inWindow c = .ok w) :
    ∃ f w', s.catalog.get c.func = .ok f ∧ s.windowColumn inWindow c' = .ok w' ∧
      (w.functionSql = w'.functionSql ↔
        c.literalTexts s.dialect f = c'.literalTexts s.dialect f) ∧
      (w.overSql = w'.overSql ↔
        w.window.literalTexts s.dialect = w'.window.literalTexts s.dialect) := by
  have parallel := Call.parallel_of_same same unnested unnested'
  simp only [windowColumn, windowColumnIn, bind_eq_ok, lift_eq_ok, Call.windowColumn_eq_ok,
    Call.callDepth_toExpr unnested] at h
  obtain ⟨f, found, window, function, text⟩ := h
  obtain ⟨keys, window', alike⟩ := parallel.window window
  obtain ⟨t, function', functions⟩ := parallel.functionSql function
  obtain ⟨u, text', overs⟩ := Window.sql_parallel alike text
  refine ⟨f, ⟨w.category, { w.window with orderBy := keys }, t, u⟩, found, ?_, functions, overs⟩
  simp only [windowColumn, windowColumnIn, bind_eq_ok, lift_eq_ok, Call.windowColumn_eq_ok,
    Call.callDepth_toExpr unnested']
  exact ⟨f, by rwa [← parallel.func], window', function', text'⟩

/-! ## Columns shared by calls -/

/-- The name of the promoted call that a call is the same as. -/
def Statement.promotedName? (r : Statement) (c : Call) : Option String :=
  (r.promoted.find? fun p => p.2.same c).map Prod.fst

namespace Setting

/-- **Sharing of columns.** Each call of a statement that is split is replaced by the name of one
promoted call, and both can be written. They are one function over one window exactly when the
literals in their arguments and in their keys are written by the same texts. -/
theorem shared_column_iff (s : Setting) {stmt r : Statement} (unmarked : stmt.Unmarked)
    (filters : stmt.block.filtersOnWindow = true) (h : s.promote? stmt = .ok (some r)) :
    r.block.exprs = stmt.block.exprs.map
      (fun e => (e.replaceCalls r.promotedName?).unqualify stmt.block.qualifiers) ∧
    ∀ c ∈ stmt.block.calls, ∃ name c' f w w', r.promotedName? c = some name ∧
      r.promoted.lookup name = some c' ∧ s.catalog.get c.func = .ok f ∧
      s.windowColumn true c = .ok w ∧ s.windowColumn true c' = .ok w' ∧
      (w.functionSql = w'.functionSql ↔
        c.literalTexts s.dialect f = c'.literalTexts s.dialect f) ∧
      (w.overSql = w'.overSql ↔
        w.window.literalTexts s.dialect = w'.window.literalTexts s.dialect) := by
  obtain ⟨source, names, eq, under, rfl⟩ :=
    exists_names_of_promote? unmarked.readsPromoted filters h
  have promoted := Statement.promoted_derived
    (stmt.block.promotedOuter names s.options.subqueryLabel) stmt.block source under.named.nodup
  have replaced : Statement.promotedName? (.derived
      (stmt.block.promotedOuter names s.options.subqueryLabel)
      (source.withBlock (stmt.block.promotedInner names))) = lookupBy Call.same names := by
    funext c
    rw [Statement.promotedName?, promoted, List.find?_map, Option.map_map, lookupBy]
    rfl
  rw [replaced, promoted]
  refine ⟨Block.exprs_promotedOuter _ _ _, fun c hc => ?_⟩
  rw [← eq] at hc
  obtain ⟨name, found⟩ := under.exists_name hc
  obtain ⟨key, mem, same⟩ := lookupBy_eq_some found
  have same' : c.same key = true := by rwa [Call.same_comm]
  have unnested := under.unnested c hc
  have unnested' := under.unnested key (under.key_mem_calls mem)
  obtain ⟨inWindow, column, written⟩ := under.exists_windowColumn mem
  obtain ⟨-, w, -, hw, -⟩ :=
    windowColumn_parallel same unnested' unnested (windowColumn_inWindow written)
  obtain ⟨f, w', hf, hw', texts⟩ := windowColumn_parallel same' unnested unnested' hw
  exact ⟨name, key, f, w, w', found, under.named.lookup_iff.mpr mem, hf, hw, hw', texts⟩

end Setting

def sumOver (v : Literal) : Call :=
  ⟨"sum", [.binary .div (.column "G") (.literal v)], none⟩

/-- The years in which one sum is less than another one. -/
def lessSum (v v' : Literal) : Statement :=
  .select
    { table := some "batting"
      predicate := some (.binary .lt (sumOver v).toExpr (sumOver v').toExpr)
      isFilter := true }

def lessSumShared (v : Literal) : Statement :=
  .derived
    { label := some "tmp"
      predicate := some (.binary .lt (.column "sum_1") (.column "sum_1"))
      isFilter := true }
    (.select
      { items := [⟨"sum_1", (sumOver v).toExpr, true⟩], selectAll := true
        table := some "batting" })

def Double.two : Double := .finite false ⟨1024, by decide⟩ ⟨0, by decide⟩

/-- Sums over an integer and a float of its value share one column. -/
theorem promote?_lessSum {x : Double} (h : x.isInt 2 = true) :
    Setting.postgres.promote? (lessSum (.int 2) (.float x)) =
      .ok (some (lessSumShared (.int 2))) := by
  have same : (sumOver (.int 2)).same (sumOver (.float x)) = true := by
    simpa [Call.same, sumOver, Call.toExpr, Expr.same, Expr.sameAll, Literal.same,
      Literal.quantity?, Quantity.same] using h
  have calls : (lessSum (.int 2) (.float x)).block.distinctCalls = [(sumOver (.int 2), true)] := by
    have step : (lessSum (.int 2) (.float x)).block.distinctCalls =
        upsertBy Call.same (sumOver (.float x)) (fun old => old.getD false || true)
          [(sumOver (.int 2), true)] := rfl
    rw [step, upsertBy, if_pos same]
    rfl
  have unnested : (lessSum (.int 2) (.float x)).block.windowCalls.forM
      (fun p => p.1.checkNested) = .ok () := rfl
  have used : (lessSum (.int 2) (.float x)).block.usedNames = ["G", "G"] := rfl
  have source : (lessSum (.int 2) (.float x)).sourceNames = [] := rfl
  have names : Setting.postgres.promotedNames (lessSum (.int 2) (.float x)) =
      .ok [(sumOver (.int 2), "sum_1")] := by
    unfold Setting.promotedNames
    rw [calls, unnested, used, source]
    rfl
  have replaced {v : Literal} (hv : (sumOver (.int 2)).same (sumOver v) = true) :
      Expr.replaceCalls (lookupBy Call.same [(sumOver (.int 2), "sum_1")]) (sumOver v).toExpr =
        .column "sum_1" := by
    have found : lookupBy Call.same [(sumOver (.int 2), "sum_1")] (sumOver v) =
        some "sum_1" := by
      simp [lookupBy, hv]
    rw [Call.toExpr, Expr.replaceCalls]
    simp only [found]
  have outer : (lessSum (.int 2) (.float x)).block.overPromoted [(sumOver (.int 2), "sum_1")]
      (.binary .lt (sumOver (.int 2)).toExpr (sumOver (.float x)).toExpr) =
        .binary .lt (.column "sum_1") (.column "sum_1") := by
    rw [Block.overPromoted, Expr.replaceCalls, replaced (Call.same_self _), replaced same]
    rfl
  have split : Setting.postgres.split (lessSum (.int 2) (.float x)) =
      .ok (lessSumShared (.int 2)) := by
    refine Setting.split_eq_ok.mpr ⟨_, names, ?_⟩
    rw [lessSumShared, ← outer]
    rfl
  have filters : (lessSum (.int 2) (.float x)).block.filtersOnWindow = true := rfl
  exact Setting.promote?_select_eq_ok.mpr (.inr ⟨filters, _, split, rfl⟩)

/-- Two sums over the same integer are one column, and one SQL expression. -/
theorem shared_column_iff_sums :
    (lessSum (.int 2) (.int 2)).Unmarked ∧
    Setting.postgres.promote? (lessSum (.int 2) (.int 2)) = .ok (some (lessSumShared (.int 2))) ∧
    ∀ c ∈ (lessSum (.int 2) (.int 2)).block.calls, ∃ name c' w w',
      (lessSumShared (.int 2)).promotedName? c = some name ∧
      (lessSumShared (.int 2)).promoted.lookup name = some c' ∧
      Setting.postgres.windowColumn true c = .ok w ∧
      Setting.postgres.windowColumn true c' = .ok w' ∧
      w.functionSql = w'.functionSql ∧ w.overSql = w'.overSql := by
  have unmarked : (lessSum (.int 2) (.int 2)).Unmarked := by decide
  have run : Setting.postgres.promote? (lessSum (.int 2) (.int 2)) =
      .ok (some (lessSumShared (.int 2))) := rfl
  refine ⟨unmarked, run, fun c hc => ?_⟩
  obtain ⟨-, shared⟩ := Setting.postgres.shared_column_iff unmarked rfl run
  have here : c = sumOver (.int 2) := by
    rcases List.mem_cons.mp hc with rfl | hc
    · rfl
    · exact List.mem_singleton.mp hc
  subst here
  obtain ⟨name, c', f, w, w', named, lookup, -, hw, hw', functions, overs⟩ := shared _ hc
  have name_eq : some "sum_1" = some name := named
  cases name_eq
  have call_eq : some (sumOver (.int 2)) = some c' := lookup
  cases call_eq
  obtain rfl : w = w' := Except.ok.inj (hw.symm.trans hw')
  exact ⟨_, _, w, w, named, lookup, hw, hw, functions.mpr rfl, overs.mpr rfl⟩

/-- An integer and a float division share a column and are written differently. -/
theorem halves_share_column :
    (lessSum (.int 2) (.float .two)).Unmarked ∧
    (lessSum (.int 2) (.float .two)).block.filtersOnWindow = true ∧
    sumOver (.float .two) ∈ (lessSum (.int 2) (.float .two)).block.calls ∧
    Setting.postgres.promote? (lessSum (.int 2) (.float .two)) =
      .ok (some (lessSumShared (.int 2))) ∧
    (lessSumShared (.int 2)).promotedName? (sumOver (.float .two)) = some "sum_1" ∧
    (lessSumShared (.int 2)).promoted.lookup "sum_1" = some (sumOver (.int 2)) ∧
    ∃ w w', Setting.postgres.windowColumn true (sumOver (.float .two)) = .ok w ∧
      Setting.postgres.windowColumn true (sumOver (.int 2)) = .ok w' ∧
      w.functionSql = "SUM(\"G\" / 2.0)" ∧ w'.functionSql = "SUM(\"G\" / 2)" := by
  have second : sumOver (.float .two) ∈ (lessSum (.int 2) (.float .two)).block.calls :=
    List.mem_cons_of_mem _ List.mem_cons_self
  have run := promote?_lessSum (x := Double.two) (by decide +kernel)
  refine ⟨by decide, rfl, second, run, ?_, rfl, _, _, rfl, rfl, ?_, ?_⟩
  · decide +kernel
  · decide +kernel
  · decide +kernel

end WindowSql
