import WindowSql.Proofs.LongIntegers
import WindowSql.Proofs.Promotion
import WindowSql.Proofs.Windows
import WindowSql.Statement.Text

/-!
# Failures of writing SQL

What can go wrong while an expression or a statement is written:

* `text_failsOnly`: an expression fails for a function, an ordering or a frame of one of its
  windows, for the context, for a `desc` that orders nothing, or for an integer that is too long;
* `split_failsOnly_of_windows`: a split fails for a call with another one inside, or as the names
  and the windows of its calls do;
* `statementText_failsOnly_of_text`, `statementText_failsOnly`: a statement fails as its expressions
  do, for a source that is missing, or for a level that filters on a window call.
-/

namespace WindowSql

/-- A fault of a window: it is none, it has no ordering or no frame, or its function is not
available in the dialect. -/
def Fault.OfWindow (d : Dialect) : Fault → Prop
  | missingOrder _ | noWindow _ | frame .. => True
  | unavailableFunction _ dialect => dialect = d.name
  | _ => False

/-- A failure of a window: a fault of it, or a partition of the context that is not made of
names. -/
def Failure.OfWindow (d : Dialect) (context : Context) : Failure → Prop
  | fault f => f.OfWindow d
  | window f => Schema.partitionNames context.partition = .error f
  | naming _ | endlessOrdering | longInteger _ => False

def Failure.OfLimit (l : Limits) : Failure → Prop
  | longInteger f => l.Refuses f
  | _ => False

def Failure.OfWriting (l : Limits) (d : Dialect) (context : Context) (e : Failure) : Prop :=
  e.OfWindow d context ∨ e.OfLimit l

/-- A fault of a window, or of a `desc` met while an expression is written. -/
def Fault.isOfText : Fault → Bool
  | unknownFunction .. | unavailableFunction .. | missingOrder _ | noWindow _ | frame .. => true
  | misplacedDesc place _ => place == .expression
  | _ => false

def Failure.OfText (l : Limits) : Failure → Prop
  | fault f => f.isOfText = true
  | naming _ => False
  | window _ | endlessOrdering => True
  | longInteger f => l.Refuses f

theorem Failure.OfWindow.ofText {l : Limits} {d : Dialect} {context : Context} {e : Failure}
    (h : e.OfWindow d context) : e.OfText l := by
  cases e with
  | fault f => cases f <;> first | exact h.elim | rfl
  | naming f => exact h
  | window f => trivial
  | endlessOrdering => trivial
  | longInteger f => exact h.elim

theorem Catalog.get_failsOnly (c : Catalog) (name : String) :
    FailsOnly (fun f => f.isOfText = true) (c.get name) := by
  unfold Catalog.get
  split
  · exact .ok _
  · exact .error rfl

theorem Catalog.mem_of_get {catalog : Catalog} {name : String} {f : WindowFunction}
    (h : catalog.get name = .ok f) : f ∈ catalog.functions := by
  unfold Catalog.get at h
  split at h
  · rename_i found
    cases h
    exact List.mem_reverse.mp (List.mem_of_find?_eq_some found)
  · cases h

namespace Call

theorem category_failsOnly (c : Call) (f : WindowFunction) (context : Context) (inWindow : Bool)
    (d : Dialect) : FailsOnly (Fault.OfWindow d) (c.category f context inWindow) := by
  unfold category
  split
  · exact .ok _
  · split
    · exact .ok _
    · exact .error trivial

theorem frame_failsOnly (c : Call) (f : WindowFunction) (category : Category) (profile : Profile)
    (ordered : Bool) (d : Dialect) :
    FailsOnly (Fault.OfWindow d) (c.frame f category profile ordered) := by
  unfold frame
  split
  · exact .error trivial
  · exact .ok _
  · split
    · exact .ok _
    · exact .error trivial

theorem window_failsOnly (c : Call) (f : WindowFunction) (context : Context) (inWindow : Bool)
    (d : Dialect) : FailsOnly (Failure.OfWindow d context) (c.window f context inWindow) := by
  refine (FailsOnly.lift (c.category_failsOnly f context inWindow d)).bind fun category _ => ?_
  dsimp only
  split
  · exact .error trivial
  · refine (FailsOnly.lift (c.frame_failsOnly f category _ _ d)).bind fun frame _ => ?_
    have names : FailsOnly (Failure.OfWindow d context)
        ((Schema.partitionNames context.partition).mapError .window) :=
      .mapError fun _ refused => refused
    exact names.bind fun partition _ => .ok _

end Call

/-- No `desc` stands outside the calls of an expression. -/
def Expr.NoDesc : Expr → Prop
  | binary _ l r => NoDesc l ∧ NoDesc r
  | desc _ => False
  | _ => True

section
variable {P : Failure → Prop} {render : Expr → Except Failure String}

/-- An expression fails for one of its calls, or for a constant or a `desc` outside them. -/
theorem Expr.sql_failsOnly {l : Limits} {d : Dialect} {call : Call → Except Failure String}
    {e : Expr} (hcall : ∀ c ∈ e.calls, FailsOnly P (call c))
    (hliteral : ∀ v ∈ e.outerLiterals, FailsOnly (fun f => P (.longInteger f)) (d.literal l v))
    (hdesc : e.NoDesc ∨ ∀ e', P (.fault (.misplacedDesc .expression e'))) :
    FailsOnly P (e.sql l d call) := by
  induction e with
  | column name => exact .ok _
  | literal v => exact (hliteral v (List.mem_singleton.mpr rfl)).liftLong
  | call func args orderBy => exact hcall _ (List.mem_singleton.mpr rfl)
  | binary op a b iha ihb =>
    obtain ⟨left, right⟩ := List.forall_mem_append.mp hcall
    obtain ⟨leftLiteral, rightLiteral⟩ := List.forall_mem_append.mp hliteral
    exact (iha left leftLiteral (hdesc.imp_left And.left)).bind fun _ _ =>
      (ihb right rightLiteral (hdesc.imp_left And.right)).bind fun _ _ => .ok _
  | desc e => exact .error (hdesc.elim False.elim fun misplaced => misplaced _)

theorem FrameBound.sql_failsOnly (l : Limits) (b : FrameBound) :
    FailsOnly l.Refuses (b.sql l) := by
  unfold FrameBound.sql
  dsimp only
  split
  · exact .ok _
  · exact .ok _
  · exact .ok _
  -- both kinds that remain write the number of rows
  all_goals
    refine .map _ ?_
    split
    · exact l.text_failsOnly _
    · exact .ok _

theorem Window.frameClause_failsOnly (l : Limits) (frames : Bool) (w : Window) :
    FailsOnly l.Refuses (w.frameClause l frames) := by
  unfold Window.frameClause
  split
  · rename_i f _
    split
    · refine FailsOnly.map _ ((f.start.sql_failsOnly l).bind fun _ _ => ?_)
      exact (f.stop.sql_failsOnly l).bind fun _ _ => .ok _
    · exact .ok _
  · exact .ok _

theorem Window.sql_failsOnly {l : Limits} (d : Dialect) {frames : Bool} {w : Window}
    (hkeys : ∀ k ∈ w.orderBy, FailsOnly P (render k.expr))
    (hframe : FailsOnly (fun f => P (.longInteger f)) (w.frameClause l frames)) :
    FailsOnly P (w.sql l d render frames) :=
  (FailsOnly.mapM fun k hk => (hkeys k hk).map _).bind fun _ _ =>
    hframe.liftLong.bind fun _ _ => .ok _

theorem Call.functionSql_failsOnly {d : Dialect} {c : Call} {f : WindowFunction}
    (hargs : ∀ e ∈ c.writtenArgs f, FailsOnly P (render e))
    (unavailable : P (.fault (.unavailableFunction c.func d.name))) :
    FailsOnly P (c.functionSql d render f) := by
  unfold Call.functionSql
  split
  · exact .error unavailable
  · refine (FailsOnly.mapM hargs).bind fun args _ => ?_
    split <;> exact .ok _

/-- A call fails for its window, or for what is written in it. -/
theorem Call.windowColumn_failsOnly {l : Limits} {d : Dialect} {context : Context}
    {inWindow : Bool} {f : WindowFunction} {c : Call} (hwindow : ∀ e, e.OfWindow d context → P e)
    (hargs : ∀ e ∈ c.writtenArgs f, FailsOnly P (render e))
    (hkeys : ∀ k ∈ c.ordering f context, FailsOnly P (render k.expr))
    (hframe : ∀ category w, c.window f context inWindow = .ok (category, w) →
      FailsOnly (fun f => P (.longInteger f)) (w.frameClause l context.profile.frames)) :
    FailsOnly P (c.windowColumn l d render context inWindow f) := by
  refine ((c.window_failsOnly f context inWindow d).imp hwindow).bind fun resolved window => ?_
  refine (functionSql_failsOnly hargs (hwindow _ rfl)).bind fun functionSql _ => ?_
  refine (Window.sql_failsOnly d (fun k hk => ?_) (hframe _ _ window)).bind fun overSql _ => .ok _
  obtain ⟨-, -, orderBy, -⟩ := window_eq_ok.mp window
  refine hkeys k ?_
  rw [orderBy, windowOrdering] at hk
  split at hk
  · cases hk
  · exact hk

end

namespace Setting
variable (s : Setting)

theorem callText_failsOnly (levels : Nat) (inWindow : Bool) (c : Call) :
    FailsOnly (Failure.OfText s.limits) (s.callText levels inWindow c) := by
  induction levels generalizing inWindow c with
  | zero => exact .error trivial
  | succ levels ih =>
    have inside (e : Expr) :
        FailsOnly (Failure.OfText s.limits) (e.sql s.limits s.dialect (s.callText levels false)) :=
      Expr.sql_failsOnly (fun c _ => ih false c) (fun v _ => s.dialect.literal_failsOnly s.limits v)
        (.inr fun _ => rfl)
    refine (FailsOnly.lift (s.catalog.get_failsOnly c.func)).bind fun f _ => ?_
    refine (Call.windowColumn_failsOnly (fun _ => Failure.OfWindow.ofText) ?_ ?_ ?_).bind
      fun column _ => .ok _
    · exact fun e _ => inside e
    · exact fun k _ => inside k.expr
    · exact fun _ w _ => w.frameClause_failsOnly _ _

theorem textWithin_failsOnly (levels : Nat) (inWindow : Bool) (e : Expr) :
    FailsOnly (Failure.OfText s.limits) (s.textWithin levels inWindow e) :=
  Expr.sql_failsOnly (fun c _ => s.callText_failsOnly _ inWindow c)
    (fun v _ => s.dialect.literal_failsOnly s.limits v) (.inr fun _ => rfl)

theorem text_failsOnly (inWindow : Bool) (e : Expr) :
    FailsOnly (Failure.OfText s.limits) (s.text inWindow e) :=
  s.textWithin_failsOnly e.callDepth inWindow e

theorem windowColumn_failsOnlyOfText (inWindow : Bool) (c : Call) :
    FailsOnly (Failure.OfText s.limits) (s.windowColumn inWindow c) := by
  refine (FailsOnly.lift (s.catalog.get_failsOnly c.func)).bind fun f _ => ?_
  refine Call.windowColumn_failsOnly (fun _ => Failure.OfWindow.ofText) ?_ ?_ ?_
  · exact fun e _ => s.textWithin_failsOnly _ false e
  · exact fun k _ => s.textWithin_failsOnly _ false k.expr
  · exact fun _ w _ => w.frameClause_failsOnly _ _

end Setting

/-- A split fails for a call with another one inside, for a name, for a window, or for a call that
cannot be described. -/
theorem Setting.split_failsOnly_of_windows {s : Setting} {P : Failure → Prop} {stmt : Statement}
    (hnested : FailsOnly (fun f => P (.fault f))
      (stmt.block.windowCalls.forM fun p => p.1.checkNested))
    (hnames : FailsOnly P (s.nameCalls ⟨stmt.block.usedNames ++ stmt.sourceNames, []⟩
      (stmt.block.distinctCalls.map (·.1))))
    (hwindows : ∀ p ∈ stmt.block.distinctCalls, FailsOnly P (s.windowColumn p.2 p.1))
    (hshown : ∀ p ∈ stmt.block.distinctCalls,
      FailsOnly (fun f => P (.longInteger f)) (p.1.describe s.limits)) :
    FailsOnly P (s.split stmt) := by
  refine FailsOnly.map _ (hnested.lift.bind fun _ _ => hnames.bind fun names named => ?_)
  refine (FailsOnly.mapM hwindows).bind fun columns computed => ?_
  rw [checkPartitions_of_windowColumns computed, lift_ok, ok_bind]
  refine (FailsOnly.liftLong (FailsOnly.mapM fun p hp => ?_)).bind fun _ _ => .ok names
  have key : p.1 ∈ stmt.block.distinctCalls.map (·.1) := by
    rw [← (nameCalls_eq_ok named).keys]
    exact List.mem_map_of_mem hp
  obtain ⟨q, hq, same⟩ := List.mem_map.mp key
  exact (same ▸ hshown q hq).map _

inductive Failure.OfStatement (l : Limits) (stmt : Statement) : Failure → Prop where
  | text {e : Failure} (h : e.OfText l) : OfStatement l stmt e
  | noSource : OfStatement l stmt (.fault .noSource)
  | filter {b : Block} {p : Expr} (level : b ∈ stmt.blocks) (filters : b.filtersOnWindow = true)
      (predicate : b.predicate = some p) : OfStatement l stmt (.fault (.windowInFilter p))

namespace Setting
variable (s : Setting)

theorem selectText_failsOnly {P : Failure → Prop} {b : Block}
    (htext : ∀ e ∈ b.exprs, ∀ inWindow, FailsOnly P (s.text inWindow e)) :
    FailsOnly P (s.selectText b) := by
  refine (FailsOnly.mapM fun item hi => ?_).bind fun _ _ => .ok _
  have listed : item.expr ∈ b.exprs :=
    List.mem_append_left _ (List.mem_map.mpr ⟨item, hi, rfl⟩)
  exact (htext _ listed _).map _

theorem tableText_failsOnly {P : Failure → Prop} (hsource : P (.fault .noSource)) (b : Block) :
    FailsOnly P (s.tableText b) := by
  unfold tableText
  split
  · exact .error hsource
  · split
    · exact .error hsource
    · split
      · exact .ok _
      · split <;> exact .ok _

/-- A table that has a name is written. -/
theorem tableText_of_named {b : Block} {name : String} (named : b.table = some name)
    (nonempty : name.isEmpty = false) : ∃ t, s.tableText b = .ok t := by
  unfold tableText
  rw [named]
  simp only [nonempty, Bool.false_eq_true, ↓reduceIte]
  split
  · exact ⟨_, rfl⟩
  · split <;> exact ⟨_, rfl⟩

theorem filterText_failsOnly {P : Failure → Prop} {b : Block}
    (htext : ∀ e ∈ b.exprs, ∀ inWindow, FailsOnly P (s.text inWindow e))
    (hfilter : b.filtersOnWindow = true → ∀ p, b.predicate = some p →
      P (.fault (.windowInFilter p))) :
    FailsOnly P (s.filterText b) := by
  unfold filterText
  split
  · exact .ok _
  · rename_i p hp
    split
    · rename_i filters
      exact .error (hfilter (by simpa [Block.filtersOnWindow, hp] using filters) p hp)
    · have filter : p ∈ b.exprs := by simp [Block.exprs, hp]
      exact (htext p filter true).map _

/-- Writing a statement fails as its expressions do, as its table does, or for a level that filters
on a window call. -/
theorem statementText_failsOnly_of_text {P : Failure → Prop} {stmt : Statement}
    (htext : ∀ b ∈ stmt.blocks, ∀ e ∈ b.exprs, ∀ inWindow, FailsOnly P (s.text inWindow e))
    (htable : FailsOnly P (s.tableText stmt.innermost))
    (hfilter : ∀ b ∈ stmt.blocks, b.filtersOnWindow = true → ∀ p, b.predicate = some p →
      P (.fault (.windowInFilter p))) :
    FailsOnly P (s.statementText stmt) := by
  induction stmt with
  | select b =>
    have text := htext b List.mem_cons_self
    refine (s.selectText_failsOnly text).bind fun select _ => htable.bind fun source _ => ?_
    exact (s.filterText_failsOnly text (hfilter b List.mem_cons_self)).bind fun filter _ => .ok _
  | derived b inner ih =>
    obtain ⟨text, below⟩ := List.forall_mem_cons.mp htext
    obtain ⟨here, filters⟩ := List.forall_mem_cons.mp hfilter
    refine (s.selectText_failsOnly text).bind fun select _ => ?_
    refine (ih below htable filters).bind fun source _ => ?_
    exact (s.filterText_failsOnly text here).bind fun filter _ => .ok _

theorem statementText_failsOnly (stmt : Statement) :
    FailsOnly (Failure.OfStatement s.limits stmt) (s.statementText stmt) := by
  refine s.statementText_failsOnly_of_text ?_ ?_ ?_
  · intro b _ e _ inWindow
    exact (s.text_failsOnly inWindow e).imp fun _ => .text
  · exact s.tableText_failsOnly .noSource _
  · intro b level filters p predicate
    exact .filter level filters predicate

end Setting

end WindowSql
