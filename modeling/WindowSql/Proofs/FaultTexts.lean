import WindowSql.Proofs.DocumentLimits
import WindowSql.Proofs.WindowFrames
import WindowSql.Proofs.WindowNesting

/-!
# Texts of faults

A fault is told by a message and details, in which an integer may be too long:

* `Fault.Reported`: a fault that can be told;
* `Block.check_reported`, `Statement.check_reported`: what the check finds wrong with a statement
  can be told, if the constants of the statement and the bounds of the functions have texts;
* `Statement.checkOuter_reported`: and so can what it finds wrong over promoted columns;
* `Call.window_reported`, `Window.exists_frameClause`: nothing but such a fault comes of a
  window whose widths have texts.
-/

namespace WindowSql

/-- A fault whose message and details can be written. -/
def Fault.Reported (l : Limits) (f : Fault) : Prop :=
  (∃ message, f.message l = .ok message) ∧ ∃ details, f.details l = .ok details

/-- A failure that the statement is to blame for. -/
def Failure.Reported (l : Limits) : Failure → Prop
  | fault f => f.Reported l
  | _ => False

variable {l : Limits}

/-- A fault about no expression can be told where its message can be. -/
theorem Fault.reported_of_bare {f : Fault} (message : ∃ text, f.message l = .ok text)
    (bare : f.fragment? = none) : f.Reported l := by
  refine ⟨message, ?_⟩
  rw [details, bare]
  exact ⟨_, rfl⟩

/-- A fault about an expression, if that can be described. -/
theorem Fault.reported_of_fragment {f : Fault} {e : Expr}
    (message : ∃ text, f.message l = .ok text) (fragment : f.fragment? = some e)
    (admitted : e.Admitted l) : f.Reported l := by
  refine ⟨message, ?_⟩
  obtain ⟨t, described⟩ := e.exists_describe_iff.mpr admitted
  have shown : f.fragment?.toList.mapM (Expr.describe l) = .ok [t] := by
    rw [fragment]
    exact mapM_eq_ok.mpr (.cons described .nil)
  rw [details, shown]
  exact ⟨_, rfl⟩

theorem Failure.Reported.ne_endless {e : Failure} (h : e.Reported l) : e ≠ .endlessOrdering := by
  rintro rfl
  exact h

/-- The bounds and the widths of the function have texts. -/
structure WindowFunction.Admitted (l : Limits) (f : WindowFunction) : Prop where
  least : l.Admits f.minArgs
  most : l.Admits f.maxArgs
  integers : ∀ rule ∈ f.integerArgs, l.Admits rule.2
  preceding : ∀ rows ∈ f.preceding, l.Admits rows
  following : ∀ rows ∈ f.following, l.Admits rows

theorem WindowFunction.admitted_of_mem_builtin : ∀ f ∈ builtin, f.Admitted l := by
  have small : ∀ f ∈ builtin, f.minArgs.natAbs < 10 ∧ f.maxArgs.natAbs < 10 ∧
      (∀ rule ∈ f.integerArgs, rule.2.natAbs < 10) ∧ f.preceding = none ∧ f.following = none := by
    decide
  intro f hf
  obtain ⟨least, most, integers, before, after⟩ := small f hf
  have digit {i : Int} (h : i.natAbs < 10 ^ 1) : l.Admits i :=
    l.admits_of_natAbs_lt (by decide : 1 ≤ 640) h
  refine ⟨digit least, digit most, fun rule mem => digit (integers rule mem), ?_, ?_⟩
  · simp [before]
  · simp [after]

theorem Expr.admitted_of_mem_call {c : Call} (h : c.toExpr.Admitted l) {e : Expr}
    (he : e ∈ c.args ++ c.keys) : e.Admitted l := fun v hv =>
  h v (mem_literals_call.mpr ⟨e, he, hv⟩)

theorem Expr.admitted_of_mem_calls {e : Expr} (h : e.Admitted l) {c : Call} (hc : c ∈ e.calls) :
    c.toExpr.Admitted l := fun v hv => h v ((mem_literals e).mpr (.inr ⟨c, hc, hv⟩))

theorem Catalog.get_reported (catalog : Catalog) (name : String) :
    FailsOnly (Fault.Reported l) (catalog.get name) := by
  unfold get
  split
  · exact .ok _
  · exact .error (Fault.reported_of_bare ⟨_, rfl⟩ rfl)

namespace Expr
variable {catalog : Catalog} {place : Place}

mutual

theorem checkDesc_reported (isKey : Bool) : ∀ e : Expr, e.Admitted l →
    FailsOnly (Fault.Reported l) (e.checkDesc catalog place isKey)
  | column _, _ | literal _, _ => .ok ()
  | desc e, admitted => by
    rw [checkDesc]
    split
    · exact checkDesc_reported true e admitted
    · exact .error (Fault.reported_of_fragment ⟨_, rfl⟩ rfl admitted)
  | binary _ a b, admitted => by
    obtain ⟨left, right⟩ := List.forall_mem_append.mp admitted
    rw [checkDesc]
    exact (checkDesc_reported false a left).bind fun _ _ => checkDesc_reported false b right
  | call func args none, admitted => by
    rw [checkDesc]
    exact (catalog.get_reported func).bind fun f _ => checkDescs_reported _ _ args admitted
  | call func args (some keys), admitted => by
    obtain ⟨ofArgs, ofKeys⟩ := List.forall_mem_append.mp admitted
    rw [checkDesc]
    refine (catalog.get_reported func).bind fun f _ => ?_
    exact (checkDescs_reported _ _ args ofArgs).bind fun _ _ =>
      checkDescs_reported _ _ keys ofKeys

theorem checkDescs_reported (first others : Bool) : ∀ es : List Expr,
    (∀ v ∈ literalsAll es, v.Admitted l) →
      FailsOnly (Fault.Reported l) (checkDescs catalog place first others es)
  | [], _ => .ok ()
  | e :: rest, admitted => by
    obtain ⟨here, later⟩ := List.forall_mem_append.mp admitted
    rw [checkDescs]
    exact (checkDesc_reported first e here).bind fun _ _ => checkDescs_reported _ _ rest later

end

end Expr

theorem Call.mem_of_argumentAt? {c : Call} {position : Int} {i : Nat} {e : Expr}
    (h : c.argumentAt? position = some (i, e)) : e ∈ c.args := by
  simp only [argumentAt?, Option.ite_none_right_eq_some, Option.map_eq_some_iff,
    Prod.mk.injEq] at h
  obtain ⟨-, _, here, -, rfl⟩ := h
  exact List.mem_of_getElem? here

namespace Call
variable {c : Call} (admitted : c.toExpr.Admitted l)
include admitted

theorem checkNested_reported : FailsOnly (Fault.Reported l) c.checkNested := by
  unfold checkNested
  split
  · exact .error (Fault.reported_of_fragment ⟨_, rfl⟩ rfl admitted)
  · exact .ok _

theorem checkInteger_reported {rule : Int × Int} (bound : l.Admits rule.2) :
    FailsOnly (Fault.Reported l) (c.checkInteger rule) := by
  unfold checkInteger
  split
  · exact .ok _
  · rename_i i e found
    split
    · exact .ok _
    · refine .error (Fault.reported_of_fragment ?_ rfl admitted)
      have listed := List.mem_append_left c.keys (mem_of_argumentAt? found)
      have shown := Expr.admitted_of_mem_call admitted listed
      obtain ⟨given, described⟩ := e.exists_describe_iff.mpr shown
      rw [Fault.message, l.text_of_admits bound, described]
      exact ⟨_, rfl⟩

theorem checkArgs_reported {f : WindowFunction} (bounds : f.Admitted l) :
    FailsOnly (Fault.Reported l) (c.checkArgs f) := by
  unfold checkArgs
  split
  · exact .forM fun rule mem => checkInteger_reported admitted (bounds.integers rule mem)
  · refine .error (Fault.reported_of_fragment ?_ rfl admitted)
    rw [Fault.message, Fault.argumentRange, l.text_of_admits bounds.least,
      l.text_of_admits bounds.most, ok_bind]
    split <;> exact ⟨_, rfl⟩

theorem check_reported {catalog : Catalog} (bounds : ∀ f ∈ catalog.functions, f.Admitted l) :
    FailsOnly (Fault.Reported l) (c.check catalog) :=
  (checkNested_reported admitted).bind fun _ _ => (catalog.get_reported c.func).bind fun f known =>
    checkArgs_reported admitted (bounds f (Catalog.mem_of_get known))

end Call

/-- What the check finds wrong with a block can be told. -/
theorem Block.check_reported {catalog : Catalog}
    (bounds : ∀ f ∈ catalog.functions, f.Admitted l) {b : Block} (admitted : b.Admitted l) :
    FailsOnly (Fault.Reported l) (b.check catalog) := by
  have expr (e : Expr) (he : e ∈ b.exprs) (place : Place) :
      FailsOnly (Fault.Reported l) (e.check catalog place) :=
    (e.checkDesc_reported false (admitted e he)).bind fun _ _ => .forM fun c hc =>
      Call.check_reported (Expr.admitted_of_mem_calls (admitted e he) hc) bounds
  obtain ⟨items, predicate⟩ := List.forall_mem_append.mp expr
  rw [List.forall_mem_map] at items
  have parts : FailsOnly (Fault.Reported l) (do
      b.items.forM fun item => item.expr.check catalog .selectList
      b.predicate.toList.forM (·.check catalog .predicate)) :=
    (FailsOnly.forM fun item hi => items item hi _).bind fun _ _ => .forM fun p hp =>
      predicate p hp _
  unfold check
  split
  · exact .error (Fault.reported_of_bare ⟨_, rfl⟩ rfl)
  · exact parts

namespace Statement

/-- What is wrong with the source of a statement can be told in any case. -/
theorem check_reported {catalog : Catalog} {stmt : Statement}
    (h : ∀ b ∈ stmt.blocks, FailsOnly (Fault.Reported l) (b.check catalog)) :
    FailsOnly (Fault.Reported l) (stmt.check catalog) := by
  induction stmt with
  | select b =>
    rw [check]
    refine FailsOnly.bind ?_ fun _ _ => h b List.mem_cons_self
    unfold Block.checkTable
    split
    · exact .error (Fault.reported_of_bare ⟨_, rfl⟩ rfl)
    · split
      · exact .error (Fault.reported_of_bare ⟨_, rfl⟩ rfl)
      · exact .ok _
  | derived b q ih =>
    obtain ⟨block, below⟩ := List.forall_mem_cons.mp h
    rw [check]
    refine FailsOnly.bind ?_ fun _ _ => (ih below).bind fun _ _ => block
    unfold Block.checkNoTable
    split
    · exact .error (Fault.reported_of_bare ⟨_, rfl⟩ rfl)
    · exact .ok _

theorem checkColumn_reported (b inner : Block) (name : String) :
    FailsOnly (Fault.Reported l) (checkColumn b inner name) := by
  unfold checkColumn
  dsimp only
  split
  · exact .error (Fault.reported_of_bare ⟨_, rfl⟩ rfl)
  · split
    · exact .error (Fault.reported_of_bare ⟨_, rfl⟩ rfl)
    · exact .ok _

theorem checkOuter_reported {stmt : Statement} (admitted : stmt.block.Admitted l) :
    FailsOnly (Fault.Reported l) stmt.checkOuter := by
  refine FailsOnly.bind (.forM fun e he => ?_) fun _ _ => ?_
  · split
    · refine .error (Fault.reported_of_fragment ?_ rfl (admitted e he))
      obtain ⟨text, described⟩ := e.exists_describe_iff.mpr (admitted e he)
      rw [Fault.message, described]
      exact ⟨_, rfl⟩
    · exact .ok _
  · split
    · exact .ok _
    · exact .forM fun e _ => .forM fun name _ => checkColumn_reported _ _ name

end Statement

theorem WindowFunction.rollingFrame_described {f : WindowFunction} (admitted : f.Admitted l)
    {profile : Profile} (limit : ∀ rows ∈ profile.maxFrameOffset, l.Admits rows) :
    FailsOnly (fun refusal => ∃ text, refusal.message l = .ok text) (f.rollingFrame profile) := by
  unfold rollingFrame
  split
  · rename_i before after given given'
    have preceding := l.text_of_admits (admitted.preceding before given)
    have following := l.text_of_admits (admitted.following after given')
    split
    · refine .error ?_
      rw [FrameRefusal.message, preceding, following]
      exact ⟨_, rfl⟩
    · split
      · refine .error ?_
        rw [FrameRefusal.message, preceding]
        exact ⟨_, rfl⟩
      · split
        · rename_i most limited
          split
          · refine .error ?_
            rw [FrameRefusal.message, preceding, l.text_of_admits (limit most limited)]
            exact ⟨_, rfl⟩
          · exact .ok _
        · exact .ok _
  · exact .error ⟨_, rfl⟩

namespace Call
variable {c : Call} {f : WindowFunction}

theorem frame_reported (admitted : f.Admitted l) (category : Category) {profile : Profile}
    (limit : ∀ rows ∈ profile.maxFrameOffset, l.Admits rows) (ordered : Bool) :
    FailsOnly (Fault.Reported l) (c.frame f category profile ordered) := by
  have refusals : FailsOnly (fun refusal => ∃ text, refusal.message l = .ok text)
      (f.frameOf category profile) := by
    cases category with
    | rolling => exact (f.rollingFrame_described admitted limit).map _
    | ranking | offset | cumulative | recycled | plain => exact .ok _
  unfold frame
  split
  · rename_i refusal refused
    obtain ⟨text, told⟩ := refusals refusal refused
    refine .error (Fault.reported_of_bare ?_ rfl)
    rw [Fault.message, told]
    exact ⟨_, rfl⟩
  · exact .ok _
  · split
    · exact .ok _
    · exact .error (Fault.reported_of_bare ⟨_, rfl⟩ rfl)

/-- A window over named columns fails for what is told of its call. -/
theorem window_reported {context : Context}
    (partition : ∃ names, Schema.partitionNames context.partition = .ok names)
    (limit : ∀ rows ∈ context.profile.maxFrameOffset, l.Admits rows) (admitted : f.Admitted l)
    (shown : c.toExpr.Admitted l) (inWindow : Bool) :
    FailsOnly (Failure.Reported l) (c.window f context inWindow) := by
  obtain ⟨names, named⟩ := partition
  have category : FailsOnly (Fault.Reported l) (c.category f context inWindow) := by
    unfold Call.category
    split
    · exact .ok _
    · split
      · exact .ok _
      · exact .error (Fault.reported_of_fragment ⟨_, rfl⟩ rfl shown)
  refine (FailsOnly.lift category).bind fun category _ => ?_
  dsimp only
  split
  · exact .error (Fault.reported_of_fragment ⟨_, rfl⟩ rfl shown)
  · refine (FailsOnly.lift (frame_reported admitted category limit _)).bind fun frame _ => ?_
    rw [named]
    exact .ok _

end Call

/-- The frame of a function has a text where the widths of the function have one. -/
theorem WindowFunction.exists_frame_sql {f : WindowFunction} (admitted : f.Admitted l)
    {category : Category} {profile : Profile} {fr : Frame}
    (h : f.frameOf category profile = .ok (some fr)) : ∃ t, fr.sql l = .ok t := by
  cases category with
  | ranking | offset => cases h
  | cumulative | recycled | plain =>
    cases h
    exact ⟨_, rfl⟩
  | rolling =>
    obtain ⟨_, made, same⟩ := map_eq_ok.mp h
    obtain rfl := Option.some.inj same
    obtain ⟨k, before, -, -, -, rfl⟩ := rollingFrame_eq_ok.mp made
    have rows := l.text_of_admits (admitted.preceding k before)
    rw [Frame.sql, Frame.around]
    simp only [FrameBound.sql, rows]
    exact ⟨_, rfl⟩

theorem Window.exists_frameClause {c : Call} {f : WindowFunction} (admitted : f.Admitted l)
    {context : Context} {inWindow : Bool} {category : Category} {w : Window}
    (window : c.window f context inWindow = .ok (category, w)) (frames : Bool) :
    ∃ clause, w.frameClause l frames = .ok clause := by
  obtain ⟨-, -, -, framed, -⟩ := Call.window_eq_ok.mp window
  unfold frameClause
  split
  · rename_i fr given
    rw [given, Call.frame_eq_ok] at framed
    obtain ⟨t, ht⟩ := f.exists_frame_sql admitted framed.1
    split
    · exact ⟨[t], by rw [ht]; rfl⟩
    · exact ⟨[], rfl⟩
  · exact ⟨[], rfl⟩

end WindowSql
