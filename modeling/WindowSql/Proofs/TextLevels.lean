import WindowSql.Proofs.SharedColumns
import WindowSql.Proofs.WindowNesting

/-!
# Levels of calls

More levels of calls than were needed change nothing in what is written, and no more are needed than
a text is given:

* `EndsAs`: a run that ends as another one, or goes on without end;
* `Expr.sql_endsAs`, `Call.windowColumn_endsAs`: writing keeps this, step by step;
* `callText_endsAs`: so a call that is written through some levels is written alike through more of
  them;
* `callText_eq_text`, `windowColumn_sql_eq_text`: the text of a call is the same wherever the call
  stands;
* `sql_enough`, `key_enough`: an expression is written through its own levels and those of the key
  of the context, if it is written at all;
* `text_eq_ok_iff`, `text_of_windowColumn`: so what any number of levels writes is the text.
-/

namespace WindowSql

section
variable {α β : Type}

/-- A run goes on without end, or ends as another one. -/
def EndsAs (x y : Except Failure α) : Prop := x = .error .endlessOrdering ∨ x = y

namespace EndsAs

theorem refl (x : Except Failure α) : EndsAs x x := .inr rfl

theorem bind {x y : Except Failure α} {f g : α → Except Failure β} (h : EndsAs x y)
    (rest : ∀ a, EndsAs (f a) (g a)) : EndsAs (x >>= f) (y >>= g) := by
  rcases h with rfl | rfl
  · exact .inl rfl
  · cases x with
    | error e => exact .inr rfl
    | ok a => exact rest a

theorem map {x y : Except Failure α} (f : α → β) (h : EndsAs x y) : EndsAs (x.map f) (y.map f) := by
  rcases h with rfl | rfl
  · exact .inl rfl
  · exact .inr rfl

theorem mapM {l : List α} {f g : α → Except Failure β} (h : ∀ a ∈ l, EndsAs (f a) (g a)) :
    EndsAs (l.mapM f) (l.mapM g) := by
  induction l with
  | nil => exact .refl _
  | cons a rest ih =>
    obtain ⟨first, others⟩ := List.forall_mem_cons.mp h
    rw [List.mapM_cons, List.mapM_cons]
    exact first.bind fun b => (ih others).bind fun bs => .refl _

/-- Where a run ends with a value, so does the other one. -/
theorem eq_ok {x y : Except Failure α} {a : α} (h : EndsAs x y) (ok : x = .ok a) : y = .ok a := by
  rcases h with rfl | rfl
  · cases ok
  · exact ok

/-- A run that ends is the other one. -/
theorem eq_of_ends {x y : Except Failure α} (h : EndsAs x y)
    (ends : FailsOnly (· ≠ .endlessOrdering) x) : x = y := by
  apply h.resolve_left
  intro endless
  exact ends _ endless rfl

end EndsAs

end

theorem Expr.sql_endsAs {l : Limits} {d : Dialect} {call call' : Call → Except Failure String}
    {e : Expr} (h : ∀ c ∈ e.calls, EndsAs (call c) (call' c)) :
    EndsAs (e.sql l d call) (e.sql l d call') := by
  induction e with
  | column name => exact .refl _
  | literal v => exact .refl _
  | call func args orderBy => exact h _ (List.mem_singleton_self _)
  | binary op a b iha ihb =>
    obtain ⟨left, right⟩ := List.forall_mem_append.mp h
    exact (iha left).bind fun _ => (ihb right).bind fun _ => .refl _
  | desc e => exact .refl _

namespace Call
variable {l : Limits} {d : Dialect} {render render' : Expr → Except Failure String}

theorem functionSql_endsAs (h : ∀ e, EndsAs (render e) (render' e)) (f : WindowFunction)
    (c : Call) : EndsAs (c.functionSql d render f) (c.functionSql d render' f) := by
  unfold functionSql
  cases d.function? f.sqlName with
  | none => exact .refl _
  | some name => exact (EndsAs.mapM fun e _ => h e).bind fun args => .refl _

theorem windowColumn_endsAs (h : ∀ e, EndsAs (render e) (render' e)) (context : Context)
    (inWindow : Bool) (f : WindowFunction) (c : Call) :
    EndsAs (c.windowColumn l d render context inWindow f)
      (c.windowColumn l d render' context inWindow f) := by
  have keys (w : Window) : EndsAs (w.sql l d render context.profile.frames)
      (w.sql l d render' context.profile.frames) :=
    (EndsAs.mapM fun k _ => (h k.expr).map _).bind fun _ => .refl _
  exact (EndsAs.refl _).bind fun resolved =>
    (c.functionSql_endsAs h f).bind fun _ => (keys resolved.2).bind fun _ => .refl _

end Call

namespace Setting
variable {s : Setting} {inWindow : Bool} {c : Call}

/-- A call that is written, or fails, through some levels does so alike through more of them. -/
theorem callText_endsAs (levels more : Nat) (inWindow : Bool) (c : Call) :
    EndsAs (s.callText levels inWindow c) (s.callText (levels + more) inWindow c) := by
  induction levels generalizing inWindow c with
  | zero => exact .inl rfl
  | succ levels ih =>
    have inside (e : Expr) : EndsAs (e.sql s.limits s.dialect (s.callText levels false))
        (e.sql s.limits s.dialect (s.callText (levels + more) false)) :=
      Expr.sql_endsAs fun c _ => ih false c
    rw [Nat.succ_add]
    exact (EndsAs.refl _).bind fun f =>
      (c.windowColumn_endsAs inside s.context inWindow f).bind fun _ => .refl _

/-- The text of a call on its own. -/
theorem text_toExpr (unnested : c.nested? = none) (inWindow : Bool) :
    s.text inWindow c.toExpr = s.callText (s.context.orderDepth + 1) inWindow c := by
  rw [text, textWithin, Call.callDepth_toExpr unnested, Nat.add_comm]
  rfl

/-- A call has the same text wherever it stands. -/
theorem callText_eq_text (unnested : c.nested? = none)
    (ends : FailsOnly (· ≠ .endlessOrdering) (s.text inWindow c.toExpr)) {e : Expr}
    (hc : c ∈ e.calls) :
    s.callText (e.callDepth + s.context.orderDepth) inWindow c = s.text inWindow c.toExpr := by
  rw [text_toExpr unnested] at ends ⊢
  obtain ⟨more, deep⟩ : ∃ more, e.callDepth + s.context.orderDepth =
      s.context.orderDepth + 1 + more := by
    have positive := Expr.callDepth_pos hc
    exact ⟨e.callDepth - 1, by omega⟩
  rw [deep]
  exact ((callText_endsAs _ more inWindow c).eq_of_ends ends).symm

/-- The column of a call is written through the levels of the ordering twice. -/
theorem windowColumn_sql_eq_callText (inWindow : Bool) (c : Call) :
    (s.windowColumn inWindow c).map WindowColumn.sql =
      s.callText (c.toExpr.callDepth + s.context.orderDepth + s.context.orderDepth + 1)
        inWindow c := by
  rw [callText, windowColumn]
  cases Fault.lift (s.catalog.get c.func) <;> rfl

/-- The column of a call has the text of the call. -/
theorem windowColumn_sql_eq_text (unnested : c.nested? = none)
    (ends : FailsOnly (· ≠ .endlessOrdering) (s.text inWindow c.toExpr)) :
    (s.windowColumn inWindow c).map WindowColumn.sql = s.text inWindow c.toExpr := by
  rw [text_toExpr unnested] at ends ⊢
  have levels : c.toExpr.callDepth + s.context.orderDepth + s.context.orderDepth + 1 =
      s.context.orderDepth + 1 + (s.context.orderDepth + 1) := by
    rw [Call.callDepth_toExpr unnested]
    omega
  rw [windowColumn_sql_eq_callText, levels]
  exact ((callText_endsAs _ _ inWindow c).eq_of_ends ends).symm

end Setting

namespace Expr

theorem callDepth_stripDesc (e : Expr) : e.stripDesc.callDepth = e.callDepth := by
  induction e with
  | desc e ih => exact ih
  | _ => rfl

theorem callDepth_le_callDepthAll {es : List Expr} {e : Expr} (h : e ∈ es) :
    e.callDepth ≤ callDepthAll es := by
  induction es with
  | nil => cases h
  | cons first rest ih =>
    rw [callDepthAll]
    rcases List.mem_cons.mp h with rfl | later
    · exact Nat.le_max_left ..
    · exact Nat.le_trans (ih later) (Nat.le_max_right ..)

theorem callDepth_le_of_mem_calls {e : Expr} {c : Call} (h : c ∈ e.calls) :
    c.toExpr.callDepth ≤ e.callDepth := by
  induction e with
  | column name => cases h
  | literal v => cases h
  | call func args orderBy =>
    obtain rfl := List.mem_singleton.mp h
    exact Nat.le_refl _
  | binary op l r ihl ihr =>
    rw [callDepth]
    rcases List.mem_append.mp h with left | right
    · exact Nat.le_trans (ihl left) (Nat.le_max_left ..)
    · exact Nat.le_trans (ihr right) (Nat.le_max_right ..)
  | desc e ih => exact ih h

end Expr

namespace Call

theorem callDepth_lt_toExpr {c : Call} {e : Expr} (h : e ∈ c.args ++ c.keys) :
    e.callDepth < c.toExpr.callDepth := by
  obtain ⟨func, args, orderBy⟩ := c
  cases orderBy with
  | none =>
    have argument : e ∈ args := by simpa [keys] using h
    exact Nat.lt_succ_of_le (Expr.callDepth_le_callDepthAll argument)
  | some ks =>
    refine Nat.lt_succ_of_le ?_
    rcases List.mem_append.mp h with argument | key
    · exact Nat.le_trans (Expr.callDepth_le_callDepthAll argument) (Nat.le_max_left ..)
    · exact Nat.le_trans (Expr.callDepth_le_callDepthAll key) (Nat.le_max_right ..)

/-- In the window of a call stands the key of the context, or what has fewer levels than the
call. -/
theorem inside_shallow {c : Call} {f : WindowFunction} {context : Context} {inWindow : Bool}
    {category : Category} {w : Window} (window : c.window f context inWindow = .ok (category, w))
    {e : Expr} (he : e ∈ c.inside f w) :
    (∃ k ∈ context.defaultOrder, e = k.expr) ∨ e.callDepth < c.toExpr.callDepth := by
  rcases inside_cases window he with ⟨k, given, rfl⟩ | ⟨own, mem, same⟩ | ⟨name, -, rfl⟩
  · exact .inl ⟨k, defaultOrder_of_contextKey? given, rfl⟩
  · have shallow := callDepth_lt_toExpr mem
    rcases same with rfl | rfl
    · exact .inr shallow
    · exact .inr (own.callDepth_stripDesc ▸ shallow)
  · exact .inr (Expr.callDepth_pos (List.mem_singleton_self c))

end Call

namespace Setting
variable {s : Setting} {inWindow : Bool} {e : Expr} {t : String}

/-- What is written through some levels is written alike through more of them. -/
theorem sql_more {levels more : Nat} (le : levels ≤ more)
    (h : e.sql s.limits s.dialect (s.callText levels inWindow) = .ok t) :
    e.sql s.limits s.dialect (s.callText more inWindow) = .ok t := by
  obtain ⟨extra, rfl⟩ := Nat.exists_eq_add_of_le le
  exact (Expr.sql_endsAs fun c _ => callText_endsAs levels extra inWindow c).eq_ok h

/-- An expression that is written through some levels is written through its own ones and those that
the key of the context needs, where the key is written through fewer levels than the expression. -/
theorem sql_enough {levels need : Nat}
    (key : ∀ below < levels, ∀ k ∈ s.context.defaultOrder, ∀ u,
      k.expr.sql s.limits s.dialect (s.callText below false) = .ok u →
        k.expr.sql s.limits s.dialect (s.callText need false) = .ok u)
    (h : e.sql s.limits s.dialect (s.callText levels inWindow) = .ok t) :
    e.sql s.limits s.dialect (s.callText (e.callDepth + need) inWindow) = .ok t := by
  induction levels generalizing inWindow e t with
  | zero =>
    have none : e.calls = [] := by
      refine List.eq_nil_iff_forall_not_mem.mpr fun c hc => ?_
      obtain ⟨u, hu⟩ := Expr.sql_calls_ok h c hc
      cases hu
    rwa [Expr.sql_of_calls_eq_nil none]
  | succ levels ih =>
    have calls : ∀ c ∈ e.calls, s.callText (levels + 1) inWindow c =
        s.callText (e.callDepth + need) inWindow c := by
      intro c hc
      obtain ⟨more, deep⟩ := Expr.exists_levels hc need
      have outer := Expr.callDepth_le_of_mem_calls hc
      obtain ⟨u, hu⟩ := Expr.sql_calls_ok h c hc
      simp only [callText, bind_eq_ok, lift_eq_ok] at hu
      obtain ⟨f, known, column, written, -⟩ := hu
      have window := (Call.windowColumn_eq_ok.mp written).1
      rw [deep, callText, callText, known, lift_ok, ok_bind, ok_bind]
      rw [Call.windowColumn_congr fun category w again x hx => ?_]
      obtain ⟨rfl, rfl⟩ := Prod.mk.inj (Except.ok.inj (window.symm.trans again))
      obtain ⟨v, hv⟩ := Call.inside_ok_of_windowColumn written x hx
      rw [hv]
      rcases Call.inside_shallow window hx with ⟨k, given, rfl⟩ | shallow
      · have positive := Expr.callDepth_pos hc
        exact (sql_more (by omega) (key levels (Nat.lt_succ_self _) k given v hv)).symm
      · have fewer := ih (fun below lt => key below (Nat.lt_succ_of_lt lt)) hv
        exact (sql_more (by omega) fewer).symm
    exact (Expr.sql_endsAs fun c hc => .inr (calls c hc)).eq_ok h

/-- The key of the context needs no more levels than it has. -/
theorem key_enough {k : OrderKey} (given : k ∈ s.context.defaultOrder) {levels : Nat}
    (h : k.expr.sql s.limits s.dialect (s.callText levels false) = .ok t) :
    k.expr.sql s.limits s.dialect (s.callText s.context.orderDepth false) = .ok t := by
  induction levels using Nat.strongRecOn generalizing t with
  | _ levels ih =>
  by_cases earlier : ∃ below < levels, ∃ u,
      k.expr.sql s.limits s.dialect (s.callText below false) = .ok u
  · obtain ⟨below, lt, u, hu⟩ := earlier
    obtain rfl := Except.ok.inj ((sql_more (Nat.le_of_lt lt) hu).symm.trans h)
    exact ih below lt hu
  · -- written for the first time through these levels, so the key does not stand inside itself
    have own : s.context.orderDepth = k.expr.callDepth := by
      rw [Context.orderDepth, Option.mem_def.mp given]
    have enough :
        k.expr.sql s.limits s.dialect (s.callText (k.expr.callDepth + 0) false) = .ok t := by
      refine sql_enough (fun below lt k' given' u hu => ?_) h
      obtain rfl := Option.some.inj (given.symm.trans given')
      exact absurd ⟨below, lt, u, hu⟩ earlier
    rwa [own]

/-- What is written through any number of levels is the text. -/
theorem text_eq_ok_iff :
    s.text inWindow e = .ok t ↔
      ∃ levels, e.sql s.limits s.dialect (s.callText levels inWindow) = .ok t := by
  constructor
  · intro h
    exact ⟨_, h⟩
  · rintro ⟨levels, h⟩
    exact sql_enough (fun _ _ k given u hu => key_enough given hu) h

/-- A column that is computed is the text of its call, on its own. -/
theorem text_of_windowColumn {c : Call} {w : WindowColumn}
    (h : s.windowColumn inWindow c = .ok w) : s.text inWindow c.toExpr = .ok w.sql := by
  have written := windowColumn_sql_eq_callText (s := s) inWindow c
  rw [h] at written
  exact text_eq_ok_iff.mpr ⟨_, written.symm⟩

end Setting

end WindowSql
