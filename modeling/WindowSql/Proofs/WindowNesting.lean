import WindowSql.Proofs.CheckedStatements
import WindowSql.Proofs.ColumnScope

/-!
# Windows inside windows

No call of a checked statement holds another one, so a window is written inside another one only by
the ordering of the context:

* `Call.inside`: what is written in the window of a call, and `windowColumn_congr`: that its text
  depends on nothing else;
* `writesFlat_iff`: no window stands inside that of a call, exactly where the context does not order
  it by a key with a call;
* `WritesFlat.callText_eq`, `writesFlat_of_callText`: such a window is written through one level of
  calls, and no other window is;
* `callText_ne_ok_of_reentry`: a key with a call that is ordered by that key is never written;
* `window_nesting`: all this for every call of a checked statement, and that moving its filters adds
  no call.
-/

namespace WindowSql

namespace Call

/-- The key that the context gives to a call without an ordering of its own. An aggregate over its
partition gets none where there are no frames. -/
def contextKey? (c : Call) (f : WindowFunction) (context : Context) (category : Category) :
    Option OrderKey :=
  if c.keyArgument? f = none ∧ c.keys = [] ∧
      ¬(category = .recycled ∧ context.profile.frames = false) then context.defaultOrder
  else none

/-- The arguments of the function, the keys of the window and the columns of its partition. -/
def inside (c : Call) (f : WindowFunction) (w : Window) : List Expr :=
  c.writtenArgs f ++ w.orderBy.map (·.expr) ++ w.partitionBy.map .column

theorem writtenArgs_subset (c : Call) (f : WindowFunction) : c.writtenArgs f ⊆ c.args := by
  unfold writtenArgs
  split
  · split
    · exact List.nil_subset _
    · split
      · exact fun _ => List.mem_of_mem_tail
      · exact List.Subset.refl _
  · exact List.Subset.refl _

theorem keyArgument?_mem {c : Call} {f : WindowFunction} {e : Expr}
    (h : c.keyArgument? f = some e) : e ∈ c.args := by
  unfold keyArgument? at h
  split at h
  · obtain ⟨head, -⟩ := Option.filter_eq_some_iff.mp h
    exact List.mem_of_mem_head? head
  · cases h

theorem lastResort?_mem {c : Call} {f : WindowFunction} {e : Expr}
    (h : c.lastResort? f = some e) : e ∈ c.args := by
  unfold lastResort? at h
  split at h
  · exact List.mem_of_find?_eq_some h
  · cases h

/-- A window is ordered by the key of the context or by arguments and keys of the call. -/
theorem windowOrdering_cases {c : Call} {f : WindowFunction} {context : Context}
    {category : Category} {k : OrderKey} (h : k ∈ c.windowOrdering f context category) :
    c.contextKey? f context category = some k ∨ ∃ e ∈ c.args ++ c.keys, e.orderKey = k := by
  unfold windowOrdering at h
  split at h
  · cases h
  rename_i kept
  unfold ordering at h
  split at h
  · rename_i e first
    obtain rfl := List.mem_singleton.mp h
    exact .inr ⟨e, List.mem_append_left _ (keyArgument?_mem first), rfl⟩
  · rename_i key rest none' own
    obtain ⟨e, he, rfl⟩ := List.mem_map.mp h
    exact .inr ⟨e, List.mem_append_right _ (own ▸ he), rfl⟩
  · rename_i key none' own given
    obtain rfl := List.mem_singleton.mp h
    have frames : ¬(category = .recycled ∧ context.profile.frames = false) := fun recycled =>
      kept (by simpa [own] using recycled)
    exact .inl ((if_pos ⟨none', own, frames⟩).trans given)
  · obtain ⟨e, he, rfl⟩ := List.mem_map.mp h
    have argument : e ∈ c.args := lastResort?_mem (by simpa using he)
    exact .inr ⟨e, List.mem_append_left _ argument, rfl⟩

theorem defaultOrder_of_contextKey? {c : Call} {f : WindowFunction} {context : Context}
    {category : Category} {k : OrderKey} (h : c.contextKey? f context category = some k) :
    context.defaultOrder = some k := by
  unfold contextKey? at h
  split at h
  · exact h
  · cases h

theorem windowOrdering_of_contextKey? {c : Call} {f : WindowFunction} {context : Context}
    {category : Category} {k : OrderKey} (h : c.contextKey? f context category = some k) :
    c.windowOrdering f context category = [k] := by
  unfold contextKey? at h
  split at h
  · rename_i unordered
    obtain ⟨first, own, kept⟩ := unordered
    have frames : ¬(category = .recycled ∧ (!context.profile.frames) = true ∧
        c.keys.isEmpty = true) := by
      rintro ⟨recycled, none', -⟩
      exact kept ⟨recycled, by simpa using none'⟩
    rw [windowOrdering, if_neg frames, ordering, first, own, h]
  · cases h

/-- In a window stands the key of the context, an argument or a key of the call, or a column of the
partition. -/
theorem inside_cases {c : Call} {f : WindowFunction} {context : Context} {inWindow : Bool}
    {category : Category} {w : Window} (window : c.window f context inWindow = .ok (category, w))
    {e : Expr} (he : e ∈ c.inside f w) :
    (∃ k, c.contextKey? f context category = some k ∧ e = k.expr) ∨
      (∃ own ∈ c.args ++ c.keys, e = own ∨ e = own.stripDesc) ∨
      ∃ name ∈ w.partitionBy, e = .column name := by
  obtain ⟨-, -, orderBy, -⟩ := window_eq_ok.mp window
  simp only [inside, List.mem_append, List.mem_map] at he
  rcases he with (argument | ⟨k, hk, rfl⟩) | ⟨name, partition, rfl⟩
  · exact .inr (.inl ⟨e, List.mem_append_left _ (c.writtenArgs_subset f argument), .inl rfl⟩)
  · rw [orderBy] at hk
    rcases windowOrdering_cases hk with given | ⟨own, mem, rfl⟩
    · exact .inl ⟨k, given, rfl⟩
    · exact .inr (.inl ⟨own, mem, .inr rfl⟩)
  · exact .inr (.inr ⟨name, partition, rfl⟩)

end Call

/-- Every call of an expression that is written is written. -/
theorem Expr.sql_calls_ok {l : Limits} {d : Dialect} {call : Call → Except Failure String}
    {e : Expr} {t : String} (h : e.sql l d call = .ok t) :
    ∀ c ∈ e.calls, ∃ t', call c = .ok t' := by
  induction e generalizing t with
  | column name => exact nofun
  | literal v => exact nofun
  | call func args orderBy =>
    intro c hc
    obtain rfl := List.mem_singleton.mp hc
    exact ⟨t, h⟩
  | binary op l r ihl ihr =>
    simp only [sql, bind_eq_ok] at h
    obtain ⟨left, hl, right, hr, -⟩ := h
    exact List.forall_mem_append.mpr ⟨ihl hl, ihr hr⟩
  | desc e => cases h

/-- An expression without calls is written alike whatever becomes of calls. -/
theorem Expr.sql_of_calls_eq_nil {l : Limits} {d : Dialect}
    {call call' : Call → Except Failure String} {e : Expr} (h : e.calls = []) :
    e.sql l d call = e.sql l d call' := by
  induction e with
  | column name => rfl
  | literal v => rfl
  | call func args orderBy => cases h
  | binary op a b iha ihb =>
    obtain ⟨left, right⟩ := List.append_eq_nil_iff.mp h
    rw [sql, sql, iha left, ihb right]
  | desc e => rfl

/-- The text of a call depends on what is written in its window alone. -/
theorem Call.windowColumn_congr {l : Limits} {d : Dialect} {context : Context} {inWindow : Bool}
    {f : WindowFunction} {c : Call} {render render' : Expr → Except Failure String}
    (h : ∀ category w, c.window f context inWindow = .ok (category, w) →
      ∀ e ∈ c.inside f w, render e = render' e) :
    c.windowColumn l d render context inWindow f =
      c.windowColumn l d render' context inWindow f := by
  unfold windowColumn
  cases window : c.window f context inWindow with
  | error e => rfl
  | ok resolved =>
    obtain ⟨category, w⟩ := resolved
    have same := h category w window
    simp only [inside, List.forall_mem_append, List.forall_mem_map] at same
    obtain ⟨⟨args, keys⟩, -⟩ := same
    have function : c.functionSql d render f = c.functionSql d render' f := by
      unfold functionSql
      rw [mapM_congr args]
    have clauses :
        w.sql l d render context.profile.frames = w.sql l d render' context.profile.frames := by
      have each : ∀ k ∈ w.orderBy, k.sql render = k.sql render' := by
        intro k hk
        rw [OrderKey.sql, OrderKey.sql, keys k hk]
      unfold Window.sql
      rw [mapM_congr each]
    simp only [ok_bind, function, clauses]

/-- All that stands in a window that is written is written. -/
theorem Call.inside_ok_of_windowColumn {l : Limits} {d : Dialect}
    {call : Call → Except Failure String} {context : Context} {inWindow : Bool}
    {f : WindowFunction} {c : Call} {column : WindowColumn}
    (h : c.windowColumn l d (Expr.sql l d call) context inWindow f = .ok column) :
    ∀ e ∈ c.inside f column.window, ∃ t, e.sql l d call = .ok t := by
  obtain ⟨-, function, clauses⟩ := windowColumn_eq_ok.mp h
  obtain ⟨-, args, -, arguments, -⟩ := functionSql_eq_ok.mp function
  obtain ⟨keys, -, ordering, -⟩ := Window.sql_eq_ok.mp clauses
  simp only [inside, List.forall_mem_append, List.forall_mem_map]
  refine ⟨⟨fun e he => ?_, fun k hk => ?_⟩, fun name _ => ⟨_, rfl⟩⟩
  · obtain ⟨t, -, ht⟩ := exists_of_mapM_eq_ok arguments he
    exact ⟨t, ht⟩
  · obtain ⟨t, -, ht⟩ := exists_of_mapM_eq_ok ordering hk
    obtain ⟨t, ht, -⟩ := map_eq_ok.mp ht
    exact ⟨t, ht⟩

/-- A call is written, or fails for its window or for what stands in it. -/
theorem Call.windowColumn_failsOnly_of_inside {P : Failure → Prop} {l : Limits} {d : Dialect}
    {render : Expr → Except Failure String} {context : Context} {inWindow : Bool}
    {f : WindowFunction} {c : Call} (hwindow : FailsOnly P (c.window f context inWindow))
    (hinside : ∀ category w, c.window f context inWindow = .ok (category, w) →
      ∀ e ∈ c.inside f w, FailsOnly P (render e))
    (unavailable : P (.fault (.unavailableFunction c.func d.name)))
    (hframe : ∀ category w, c.window f context inWindow = .ok (category, w) →
      FailsOnly (fun e => P (.longInteger e)) (w.frameClause l context.profile.frames)) :
    FailsOnly P (c.windowColumn l d render context inWindow f) := by
  refine hwindow.bind fun resolved window => ?_
  obtain ⟨category, w⟩ := resolved
  have inside := hinside category w window
  simp only [Call.inside, List.forall_mem_append, List.forall_mem_map] at inside
  obtain ⟨⟨args, keys⟩, -⟩ := inside
  refine (functionSql_failsOnly args unavailable).bind fun functionSql _ => ?_
  exact (Window.sql_failsOnly d keys (hframe category w window)).bind fun overSql _ => .ok _

namespace Setting
variable {s : Setting} {inWindow : Bool} {c : Call}

/-- No window call stands in anything that is written in the window of a call. -/
def WritesFlat (s : Setting) (inWindow : Bool) (c : Call) : Prop :=
  ∀ f category w, s.catalog.get c.func = .ok f →
    c.window f s.context inWindow = .ok (category, w) → ∀ e ∈ c.inside f w, e.calls = []

/-- A call has a window, which is ordered by a key that the context gives. -/
def OrdersByContext (s : Setting) (inWindow : Bool) (c : Call) (k : OrderKey) : Prop :=
  ∃ f category w, s.catalog.get c.func = .ok f ∧
    c.window f s.context inWindow = .ok (category, w) ∧
    c.contextKey? f s.context category = some k

/-- Only the context puts a window into that of a call which holds no other one. -/
theorem writesFlat_iff (unnested : c.nested? = none) :
    s.WritesFlat inWindow c ↔ ∀ k, s.OrdersByContext inWindow c k → k.expr.calls = [] := by
  obtain ⟨args, own⟩ := c.nested?_eq_none_iff.mp unnested
  constructor
  · rintro flat k ⟨f, category, w, known, window, given⟩
    obtain ⟨-, -, orderBy, -⟩ := Call.window_eq_ok.mp window
    rw [Call.windowOrdering_of_contextKey? given] at orderBy
    refine flat f category w known window k.expr ?_
    simp [Call.inside, orderBy]
  · intro plain f category w known window e he
    rcases Call.inside_cases window he with ⟨k, given, rfl⟩ | ⟨part, mem, same⟩ | ⟨name, -, rfl⟩
    · exact plain k ⟨f, category, w, known, window, given⟩
    · have flat : part.calls = [] := (List.mem_append.mp mem).elim (args part) (own part)
      rcases same with rfl | rfl
      · exact flat
      · rw [part.calls_stripDesc, flat]
    · rfl

theorem WritesFlat.windowColumn_eq (flat : s.WritesFlat inWindow c) {f : WindowFunction}
    (known : s.catalog.get c.func = .ok f) (call call' : Call → Except Failure String) :
    c.windowColumn s.limits s.dialect (Expr.sql s.limits s.dialect call) s.context inWindow f =
      c.windowColumn s.limits s.dialect (Expr.sql s.limits s.dialect call') s.context inWindow f :=
  Call.windowColumn_congr fun category w window e he =>
    Expr.sql_of_calls_eq_nil (flat f category w known window e he)

/-- A window without another one inside is written alike through any number of levels. -/
theorem WritesFlat.callText_eq (flat : s.WritesFlat inWindow c) (levels levels' : Nat) :
    s.callText (levels + 1) inWindow c = s.callText (levels' + 1) inWindow c := by
  rw [callText, callText]
  cases known : s.catalog.get c.func with
  | error fault => rfl
  | ok f => rw [lift_ok, ok_bind, ok_bind, flat.windowColumn_eq known]

/-- A call that is written through `levels + 1` levels, and what is written in its window. -/
theorem callText_eq_ok {levels : Nat} {t : String}
    (h : s.callText (levels + 1) inWindow c = .ok t) :
    ∃ f category w, s.catalog.get c.func = .ok f ∧
      c.window f s.context inWindow = .ok (category, w) ∧
      ∀ e ∈ c.inside f w, ∀ c' ∈ e.calls, ∃ t', s.callText levels false c' = .ok t' := by
  simp only [callText, bind_eq_ok, lift_eq_ok] at h
  obtain ⟨f, known, column, written, -⟩ := h
  refine ⟨f, _, _, known, (Call.windowColumn_eq_ok.mp written).1, fun e he => ?_⟩
  obtain ⟨t, ht⟩ := Call.inside_ok_of_windowColumn written e he
  exact Expr.sql_calls_ok ht

/-- A window that is written through one level has no other one inside. -/
theorem writesFlat_of_callText {t : String} (h : s.callText 1 inWindow c = .ok t) :
    s.WritesFlat inWindow c := by
  obtain ⟨f, category, w, known, window, inside⟩ := callText_eq_ok h
  intro f' category' w' known' window' e he
  obtain rfl := Except.ok.inj (known.symm.trans known')
  obtain ⟨rfl, rfl⟩ := Prod.mk.inj (Except.ok.inj (window.symm.trans window'))
  refine List.eq_nil_iff_forall_not_mem.mpr fun c' hc' => ?_
  obtain ⟨t', ht'⟩ := inside e he c' hc'
  cases ht'

/-- A key of the context that has a call, which the context orders by that key, is never written. -/
theorem callText_ne_ok_of_reentry {k : OrderKey} {c' : Call} (mem : c' ∈ k.expr.calls)
    (again : s.OrdersByContext false c' k) (here : s.OrdersByContext inWindow c k) (levels : Nat)
    (t : String) : s.callText levels inWindow c ≠ .ok t := by
  induction levels generalizing inWindow c t with
  | zero => exact nofun
  | succ levels ih =>
    intro written
    obtain ⟨f, category, w, known, window, inside⟩ := callText_eq_ok written
    obtain ⟨f', category', w', known', window', given⟩ := here
    obtain rfl := Except.ok.inj (known.symm.trans known')
    obtain ⟨rfl, rfl⟩ := Prod.mk.inj (Except.ok.inj (window.symm.trans window'))
    obtain ⟨-, -, orderBy, -⟩ := Call.window_eq_ok.mp window
    rw [Call.windowOrdering_of_contextKey? given] at orderBy
    have key : k.expr ∈ c.inside f w := by simp [Call.inside, orderBy]
    obtain ⟨t', ht'⟩ := inside k.expr key c' mem
    exact ih again t' ht'

theorem WritesFlat.call_windowColumn_notEndless (flat : s.WritesFlat inWindow c)
    {f : WindowFunction} (known : s.catalog.get c.func = .ok f)
    (call : Call → Except Failure String) :
    FailsOnly (· ≠ .endlessOrdering) (c.windowColumn s.limits s.dialect
      (Expr.sql s.limits s.dialect call) s.context inWindow f) := by
  refine Call.windowColumn_failsOnly_of_inside ?_ (fun category w window e he => ?_) nofun
    fun _ _ _ _ _ => nofun
  · refine (c.window_failsOnly f s.context inWindow s.dialect).imp ?_
    rintro _ window rfl
    exact window
  · refine Expr.sql_failsOnly (fun c' hc' => ?_) (fun _ _ _ _ => nofun) (.inr fun _ => nofun)
    rw [flat f category w known window e he] at hc'
    cases hc'

theorem WritesFlat.callText_notEndless (flat : s.WritesFlat inWindow c) (levels : Nat) :
    FailsOnly (· ≠ .endlessOrdering) (s.callText (levels + 1) inWindow c) := by
  rw [callText]
  cases known : s.catalog.get c.func with
  | error fault => exact .error (by simp)
  | ok f => exact (flat.call_windowColumn_notEndless known _).bind fun column _ => .ok column.sql

theorem WritesFlat.windowColumn_notEndless (flat : s.WritesFlat inWindow c) :
    FailsOnly (· ≠ .endlessOrdering) (s.windowColumn inWindow c) := by
  rw [windowColumn]
  cases known : s.catalog.get c.func with
  | error fault => exact .error (by simp)
  | ok f => exact flat.call_windowColumn_notEndless known _

end Setting

/-! ## Statements -/

def Statement.calls (stmt : Statement) : List Call := stmt.blocks.flatMap (·.calls)

theorem Statement.calls_derived (b : Block) (stmt : Statement) :
    (derived b stmt).calls = b.calls ++ stmt.calls := rfl

theorem Statement.calls_withBlock (b : Block) (stmt : Statement) :
    (stmt.withBlock b).calls = b.calls ++ stmt.blocks.tail.flatMap (·.calls) := by
  rw [calls, blocks_withBlock, List.flatMap_cons]

theorem Statement.Sound.calls {catalog : Catalog} {stmt : Statement} (h : stmt.Sound catalog) :
    ∀ c ∈ stmt.calls, c.Sound catalog := by
  intro c hc
  obtain ⟨b, hb, hc⟩ := List.mem_flatMap.mp hc
  exact (h.of_mem_blocks b hb).calls c hc

namespace Setting

/-- A split computes the calls of a level below it and adds none. -/
theorem calls_of_split {s : Setting} {stmt r : Statement} (split : s.split stmt = .ok r) :
    r.calls ⊆ stmt.calls := by
  obtain ⟨names, given, rfl⟩ := split_eq_ok.mp split
  have under := promotedNames_eq_ok given
  have outer : (stmt.block.promotedOuter names s.options.subqueryLabel).calls = [] := by
    refine List.flatMap_eq_nil_iff.mpr fun e he => ?_
    rw [Block.exprs_promotedOuter] at he
    obtain ⟨e, mem, rfl⟩ := List.mem_map.mp he
    exact under.calls_overPromoted mem
  have inner : (stmt.block.promotedInner names).calls ⊆ stmt.block.calls := by
    rw [Block.calls_promotedInner]
    exact under.keys_subset
  rw [Statement.calls_derived, outer, Statement.calls_withBlock, Statement.calls,
    stmt.blocks_eq_cons, List.flatMap_cons, List.nil_append]
  exact List.append_subset.mpr
    ⟨List.subset_append_of_subset_left _ inner, List.subset_append_right _ _⟩

theorem Moves.calls_subset {s : Setting} {stmt r : Statement} (run : s.Moves stmt r) :
    r.calls ⊆ stmt.calls := by
  have above {b : Block} {q q' : Statement} (below : q'.calls ⊆ q.calls) :
      (Statement.derived b q').calls ⊆ (Statement.derived b q).calls :=
    List.append_subset.mpr
      ⟨List.subset_append_left _ _, List.subset_append_of_subset_right _ below⟩
  induction run with
  | keepSelect | marked => exact List.Subset.refl _
  | splitSelect _ split => exact calls_of_split split
  | keepDerived _ _ _ ih => exact above ih
  | splitDerived _ _ _ split ih => exact List.Subset.trans (calls_of_split split) (above ih)

/-- The windows of a statement hold no windows, wherever its calls stand. -/
def AllFlat (s : Setting) (stmt : Statement) : Prop :=
  ∀ c ∈ stmt.calls, ∀ inWindow, s.WritesFlat inWindow c

theorem split_notEndless {s : Setting} {stmt : Statement} (sound : stmt.Sound s.catalog)
    (flat : s.AllFlat stmt) : FailsOnly (· ≠ .endlessOrdering) (s.split stmt) := by
  have known (c : Call) (hc : c ∈ stmt.block.distinctCalls.map Prod.fst) : c.Sound s.catalog :=
    sound.block.calls c (Block.distinctCalls_subset hc)
  refine split_failsOnly_of_windows (fun f _ => by simp) ?_ (fun p hp => ?_) fun _ _ _ _ => nofun
  · refine (nameCalls_failsOnly known _).imp ?_
    rintro _ ⟨f, rfl⟩
    simp
  · have listed : p.1 ∈ stmt.calls := by
      rw [Statement.calls, stmt.blocks_eq_cons]
      exact List.mem_append_left _ (Block.distinctCalls_subset (List.mem_map_of_mem hp))
    exact (flat p.1 listed p.2).windowColumn_notEndless

theorem promote?_notEndless {s : Setting} {stmt : Statement} (sound : stmt.Sound s.catalog)
    (flat : s.AllFlat stmt) : FailsOnly (· ≠ .endlessOrdering) (s.promote? stmt) := by
  refine promote?_failsOnly_of_split (I := fun stmt => stmt.Sound s.catalog ∧ s.AllFlat stmt)
    ?_ ?_ (fun h => split_notEndless h.1 h.2) ⟨sound, flat⟩
  · rintro b q ⟨sound, flat⟩
    exact ⟨sound.2, fun c hc => flat c (List.mem_append_right _ hc)⟩
  · rintro b q q' ⟨sound, flat⟩ run
    refine ⟨⟨sound.1, run.sound sound.2⟩, fun c hc => flat c ?_⟩
    rcases List.mem_append.mp hc with here | below
    · exact List.mem_append_left _ here
    · exact List.mem_append_right _ (run.calls_subset below)

theorem statementText_notEndless {s : Setting} {stmt : Statement} (flat : s.AllFlat stmt) :
    FailsOnly (· ≠ .endlessOrdering) (s.statementText stmt) := by
  refine s.statementText_failsOnly_of_text ?_ ?_ ?_
  · intro b hb e he inWindow
    refine Expr.sql_failsOnly (fun c hc => ?_) (fun _ _ _ _ => nofun) (.inr fun _ => by simp)
    have listed : c ∈ stmt.calls := List.mem_flatMap.mpr ⟨b, hb, Block.mem_calls.mpr ⟨e, he, hc⟩⟩
    obtain ⟨levels, step⟩ := Expr.exists_levels hc s.context.orderDepth
    rw [step]
    exact (flat c listed inWindow).callText_notEndless _
  · exact s.tableText_failsOnly (by simp) _
  · intro b _ _ p _
    simp

/-- **Windows inside windows.** Whatever the context orders by, for every call of a statement that
passes the check: a window call stands in what is written in its window exactly where the context
gives it a key with a call; without one it is written through one level of calls, as through any
number of them, and no other call is; and where a call of that key is ordered by the key again, no
number of levels is enough. Moving filters over subqueries adds no call, and where no window has
another one inside, neither that nor writing the result ever goes on without end. -/
theorem window_nesting (s : Setting) {stmt : Statement} (checked : stmt.check s.catalog = .ok ()) :
    (∀ c ∈ stmt.calls, ∀ inWindow,
      (s.WritesFlat inWindow c ↔ ∀ k, s.OrdersByContext inWindow c k → k.expr.calls = []) ∧
      (s.WritesFlat inWindow c → ∀ levels,
        s.callText (levels + 1) inWindow c = s.callText 1 inWindow c) ∧
      (∀ t, s.callText 1 inWindow c = .ok t → s.WritesFlat inWindow c) ∧
      ∀ k, ∀ c' ∈ k.expr.calls, s.OrdersByContext false c' k → s.OrdersByContext inWindow c k →
        ∀ levels t, s.callText levels inWindow c ≠ .ok t) ∧
    (∀ moved, s.promote? stmt = .ok moved → (moved.getD stmt).calls ⊆ stmt.calls) ∧
    (s.AllFlat stmt → s.promote? stmt ≠ .error .endlessOrdering ∧
      ∀ moved, s.promote? stmt = .ok moved →
        s.statementText (moved.getD stmt) ≠ .error .endlessOrdering) := by
  have sound := Statement.sound_of_check checked
  have noCallAdded (moved : Option Statement) (run : s.promote? stmt = .ok moved) :
      (moved.getD stmt).calls ⊆ stmt.calls := (moves_of_promote? run).calls_subset
  refine ⟨fun c hc inWindow => ⟨?_, ?_, ?_, ?_⟩, noCallAdded, fun flat => ⟨?_, ?_⟩⟩
  · exact writesFlat_iff (sound.calls c hc).unnested
  · exact fun flat levels => flat.callText_eq levels 0
  · exact fun t => writesFlat_of_callText
  · exact fun k c' mem again here => callText_ne_ok_of_reentry mem again here
  · exact fun endless => promote?_notEndless sound flat _ endless rfl
  · intro moved run endless
    have kept : s.AllFlat (moved.getD stmt) := fun c hc => flat c (noCallAdded moved run hc)
    exact statementText_notEndless kept _ endless rfl

def previousAtBats : Call := ⟨"lag", [.column "AB"], none⟩

def selectPrevious : Statement :=
  .select { items := [⟨"value", previousAtBats.toExpr, false⟩], table := some "batting" }

def orderedBy (key : OrderKey) : Setting :=
  { dialect := .postgres
    context := { partition := [.str "playerID"], defaultOrder := some key }
    options := default }

/-- By a column, the window of the year before has no other one inside. -/
theorem window_nesting_byYear :
    selectPrevious.check (orderedBy ⟨.column "yearID", .asc⟩).catalog = .ok () ∧
    (orderedBy ⟨.column "yearID", .asc⟩).WritesFlat false previousAtBats ∧
    ∀ levels, (orderedBy ⟨.column "yearID", .asc⟩).callText (levels + 1) false previousAtBats =
      .ok "LAG(\"AB\") OVER (PARTITION BY \"playerID\" ORDER BY \"yearID\")" := by
  have checked : selectPrevious.check (orderedBy ⟨.column "yearID", .asc⟩).catalog = .ok () := rfl
  obtain ⟨calls, -, -⟩ := window_nesting _ checked
  obtain ⟨flat_iff, one, -⟩ := calls previousAtBats List.mem_cons_self false
  have flat := flat_iff.mpr fun k ⟨f, category, w, _, _, given⟩ => by
    have key : some k = some ⟨.column "yearID", .asc⟩ := by
      unfold Call.contextKey? at given
      split at given
      · exact given.symm
      · cases given
    cases key
    rfl
  exact ⟨checked, flat, fun levels => (one flat levels).trans rfl⟩

/-- A context may be ordered by a rank, and then the window of the rank stands inside that of the
year before; ordered by a running sum, which is ordered by the context in turn, the same statement
is never written. -/
theorem window_inside_window :
    Context.make (.one "playerID") (.key ⟨minRank "G", .asc⟩) {} =
      .ok (orderedBy ⟨minRank "G", .asc⟩).context ∧
    selectPrevious.check (orderedBy ⟨minRank "G", .asc⟩).catalog = .ok () ∧
    ¬(orderedBy ⟨minRank "G", .asc⟩).AllFlat selectPrevious ∧
    (orderedBy ⟨minRank "G", .asc⟩).statementText selectPrevious =
      .ok ("SELECT LAG(\"AB\") OVER (PARTITION BY \"playerID\" ORDER BY " ++
        "RANK() OVER (PARTITION BY \"playerID\" ORDER BY \"G\")) AS \"value\"\nFROM \"batting\"") ∧
    (orderedBy ⟨.call "cumsum" [.column "G"] none, .asc⟩).compile selectPrevious =
      .error .endlessOrdering := by
  refine ⟨rfl, rfl, fun flat => ?_, rfl, rfl⟩
  have inside := flat previousAtBats List.mem_cons_self false _ _ _ rfl rfl (minRank "G")
    (List.mem_cons_of_mem _ List.mem_cons_self)
  cases inside

end Setting

end WindowSql
