import WindowSql.Proofs.NameSearch
import WindowSql.Proofs.Recompilation

/-!
# Accepted calls

A call that the check accepts can be asked for by a statement:

* `nameCalls_counters`: so many calls of one stem are named by so many counters;
* `Accepts.orderedBy`: the ordering of an accepted call may be put in place of another one, which
  makes any number of calls of one;
* `compile_selected_eq_error`: a statement that selects a call fails as the text of the call does;
* `compile_filterOn_eq_error`: a statement that filters on calls fails as their names do.
-/

namespace WindowSql

/-- Every counter that is tried has a name. -/
theorem firstFree_counters {make : Nat → Except TemplateFault String} {taken : List String}
    {tries counter last : Nat} {name : String}
    (h : firstFree make taken tries counter = .ok (name, last)) :
    counter ≤ last ∧ ∀ n, counter ≤ n → n ≤ last → ∃ name, make n = .ok name := by
  induction tries generalizing counter with
  | zero => cases h
  | succ tries ih =>
    rw [firstFree] at h
    cases made : make counter with
    | error fault => simp [made] at h
    | ok first =>
      simp only [made] at h
      split at h
      · obtain ⟨later, named⟩ := ih h
        constructor
        · omega
        · intro n hn hlast
          by_cases here : n = counter
          · exact ⟨first, here ▸ made⟩
          · exact named n (by omega) hlast
      · cases h
        constructor
        · exact Nat.le_refl _
        · intro n hn hlast
          obtain rfl := Nat.le_antisymm hlast hn
          exact ⟨name, made⟩

theorem NameSupply.next_counters {supply after : NameSupply} {o : Options}
    {objects : Template.Objects} {stem name : String}
    (h : supply.next o objects stem = .ok (name, after)) :
    supply.counter stem < after.counter stem ∧
    ∀ n, supply.counter stem ≤ n → n < after.counter stem →
      ∃ name, o.columnName objects stem n = .ok name := by
  obtain ⟨⟨made, last⟩, found, pair⟩ := map_eq_ok.mp h
  cases pair
  obtain ⟨later, named⟩ := firstFree_counters found
  have counted :
      counter ⟨name :: supply.taken, (stem, last) :: supply.counters⟩ stem = last + 1 := by
    simp [counter]
  rw [counted]
  constructor
  · omega
  · intro n hn hlast
    exact named n hn (by omega)

/-- As many calls of one stem are named as there are counters that have a name. -/
theorem Setting.nameCalls_counters {s : Setting} {supply : NameSupply} {stem : String}
    {calls : List Call} {names : List (Call × String)} (h : s.nameCalls supply calls = .ok names)
    (stems : ∀ c ∈ calls, ∃ f, s.catalog.get c.func = .ok f ∧ f.stem = stem) {n : Nat}
    (first : supply.counter stem ≤ n) (last : n < supply.counter stem + calls.length) :
    ∃ name, s.options.columnName s.objects stem n = .ok name := by
  induction calls generalizing supply names with
  | nil =>
    simp only [List.length_nil] at last
    omega
  | cons c rest ih =>
    obtain ⟨⟨f, found, rfl⟩, others⟩ := List.forall_mem_cons.mp stems
    simp only [nameCalls, found, lift_ok, ok_bind, bind_eq_ok, mapError_eq_ok] at h
    obtain ⟨⟨name, after⟩, given, later, run, -⟩ := h
    obtain ⟨grows, named⟩ := NameSupply.next_counters given
    simp only [List.length_cons] at last
    by_cases before : n < after.counter f.stem
    · exact named n first before
    · have after' : after.counter f.stem ≤ n := Nat.le_of_not_lt before
      exact ih run others after' (show n < after.counter f.stem + rest.length by omega)

namespace Call

theorem checkInteger_eq_ok {c : Call} {rule : Int × Int} :
    c.checkInteger rule = .ok () ↔
      ∀ p ∈ c.argumentAt? rule.1, p.2.isIntegerFrom rule.2 = true := by
  unfold checkInteger
  cases c.argumentAt? rule.1 <;> simp

theorem checkArgs_eq_ok {c : Call} {f : WindowFunction} :
    c.checkArgs f = .ok () ↔ (f.minArgs ≤ c.args.length ∧ c.args.length ≤ f.maxArgs) ∧
      ∀ rule ∈ f.integerArgs, ∀ p ∈ c.argumentAt? rule.1, p.2.isIntegerFrom rule.2 = true := by
  unfold checkArgs
  split
  · rename_i count
    rw [forM_eq_ok, and_iff_right count]
    exact forall₂_congr fun _ _ => checkInteger_eq_ok
  · rename_i count
    simp [count]

theorem check_eq_ok {catalog : Catalog} {c : Call} :
    c.check catalog = .ok () ↔
      c.nested? = none ∧ ∃ f, catalog.get c.func = .ok f ∧ c.checkArgs f = .ok () := by
  rw [check, check_bind_eq_ok, bind_eq_ok, checkNested_eq_ok]

theorem checkDesc_toExpr_eq_ok {catalog : Catalog} {place : Place} {isKey : Bool} {c : Call} :
    c.toExpr.checkDesc catalog place isKey = .ok () ↔ ∃ f, catalog.get c.func = .ok f ∧
      Expr.checkDescs catalog place (f.category == .ranking) false c.args = .ok () ∧
      ∀ keys ∈ c.orderBy, Expr.checkDescs catalog place true true keys = .ok () := by
  obtain ⟨func, args, orderBy⟩ := c
  cases orderBy with
  | none => simp [toExpr, Expr.checkDesc, bind_eq_ok]
  | some keys =>
    rw [toExpr, Expr.checkDesc, bind_eq_ok]
    simp [check_bind_eq_ok]

def orderedBy (c : Call) (column : String) : Call := { c with orderBy := some [.column column] }

theorem check_orderedBy {catalog : Catalog} {c : Call} (h : c.check catalog = .ok ())
    (column : String) : (c.orderedBy column).check catalog = .ok () := by
  obtain ⟨unnested, f, known, counted⟩ := check_eq_ok.mp h
  obtain ⟨noCalls, -⟩ := c.nested?_eq_none_iff.mp unnested
  have unnested' : (c.orderedBy column).nested? = none := by
    refine (nested?_eq_none_iff _).mpr ⟨noCalls, fun k hk => ?_⟩
    obtain rfl := List.mem_singleton.mp hk
    rfl
  have counted' : (c.orderedBy column).checkArgs f = .ok () := by
    rw [checkArgs_eq_ok] at counted ⊢
    exact counted
  exact check_eq_ok.mpr ⟨unnested', f, known, counted'⟩

end Call

namespace Setting

/-- A call that the check accepts, wherever it stands. -/
def Accepts (s : Setting) (c : Call) : Prop := c.toExpr.check s.catalog .selectList = .ok ()

variable {s : Setting} {c : Call}

theorem Accepts.sound (h : s.Accepts c) : c.Sound s.catalog :=
  (Expr.sound_of_check h).calls c (List.mem_singleton_self _)

/-- The ordering of a call may be put in place of another one. -/
theorem Accepts.orderedBy (h : s.Accepts c) (column : String) : s.Accepts (c.orderedBy column) := by
  obtain ⟨placed, calls⟩ := Expr.check_eq_ok.mp h
  obtain ⟨f, known, args, -⟩ := Call.checkDesc_toExpr_eq_ok.mp placed
  have placed' : (c.orderedBy column).toExpr.checkDesc s.catalog .selectList false = .ok () := by
    refine Call.checkDesc_toExpr_eq_ok.mpr ⟨f, known, args, fun keys hk => ?_⟩
    cases hk
    rfl
  refine Expr.check_eq_ok.mpr ⟨placed', fun c' hc' => ?_⟩
  obtain rfl := List.mem_singleton.mp hc'
  exact Call.check_orderedBy (calls c (List.mem_singleton_self _)) column

end Setting

def Call.selected (c : Call) (inWindow : Bool) : Statement :=
  .select
    { items := [⟨"value", c.toExpr, false⟩]
      table := some "source"
      isFilter := inWindow }

def conjunction : List Call → Expr
  | [] => .literal (.bool true)
  | c :: rest => .binary .and c.toExpr (conjunction rest)

def filterOn (calls : List Call) : Statement :=
  .select { table := some "source", predicate := some (conjunction calls), isFilter := true }

theorem calls_conjunction (calls : List Call) : (conjunction calls).calls = calls := by
  induction calls with
  | nil => rfl
  | cons c rest ih =>
    rw [conjunction, Expr.calls, ih]
    rfl

theorem check_conjunction {s : Setting} {calls : List Call} (h : ∀ c ∈ calls, s.Accepts c) :
    (conjunction calls).check s.catalog .predicate = .ok () := by
  have each (c : Call) (hc : c ∈ calls) : c.toExpr.check s.catalog .predicate = .ok () :=
    Expr.check_of_mem_calls (h c hc) (List.mem_singleton_self _)
  refine Expr.check_eq_ok.mpr ⟨?_, fun c hc => ?_⟩
  · clear h
    induction calls with
    | nil => rfl
    | cons c rest ih =>
      obtain ⟨first, others⟩ := List.forall_mem_cons.mp each
      rw [conjunction, Expr.checkDesc, check_bind_eq_ok]
      exact ⟨(Expr.check_eq_ok.mp first).1, ih others⟩
  · rw [calls_conjunction] at hc
    exact (Expr.check_eq_ok.mp (each c hc)).2 c (List.mem_singleton_self _)

/-- Keys that all differ are kept as they are. -/
theorem distinctKeys_of_pairwise {α : Type} {same : α → α → Bool} {keys : List α}
    (h : keys.Pairwise fun a b => same a b = false) : distinctKeys same keys = keys := by
  have run (before keys : List α) (h : (before ++ keys).Pairwise fun a b => same a b = false) :
      keys.foldl (addKey same) before = before ++ keys := by
    induction keys generalizing before with
    | nil => simp
    | cons key rest ih =>
      have absent : before.any (same · key) = false := by
        rw [List.any_eq_false]
        intro a ha
        have apart := (List.pairwise_append.mp h).2.2 a ha key List.mem_cons_self
        simp [apart]
      rw [List.foldl_cons, addKey, absent]
      rw [List.append_cons] at h
      simpa using ih (before ++ [key]) h
  exact run [] keys h

namespace Setting
variable {s : Setting} {c : Call}

/-- A compilation that gets beyond the ordering of the context. -/
theorem compile_of_describeOrder {ordering : List String}
    (described : s.context.describeOrder s.limits = .ok ordering) (stmt : Statement) :
    s.compile stmt = s.prepare stmt >>= fun (prepared, changed) =>
      s.statementText prepared >>= fun sql => .ok ⟨sql, s.dialect.name, prepared, changed⟩ := by
  rw [compile, described]
  rfl

theorem compile_selected_eq_error {ordering : List String}
    (described : s.context.describeOrder s.limits = .ok ordering) (accepted : s.Accepts c)
    {inWindow : Bool} {e : Failure} (h : s.text inWindow c.toExpr = .error e) :
    s.compile (c.selected inWindow) = .error e := by
  have checked : (c.selected inWindow).check s.catalog = .ok () := by
    rw [Call.selected, Statement.check, check_bind_eq_ok, Block.check_eq_ok]
    refine ⟨rfl, by simp [Block.names], fun item hi => ?_, by simp⟩
    obtain rfl := List.mem_singleton.mp hi
    exact accepted
  have unmoved : s.promote? (c.selected inWindow) = .ok none := rfl
  have text : s.statementText (c.selected inWindow) = .error e := by
    have item : s.itemText inWindow ⟨"value", c.toExpr, false⟩ = .error e := by
      rw [itemText, Bool.or_false]
      exact map_eq_error.mpr h
    simp only [Call.selected, statementText, selectText, List.mapM_cons, item, error_bind]
  simp only [compile_of_describeOrder described, prepare, checked, unmoved, text, lift_ok, ok_bind,
    pure_eq_ok, error_bind]

/-- The names that a filter on calls has taken before its calls are named. -/
def filterSupply (calls : List Call) : NameSupply :=
  ⟨(filterOn calls).block.usedNames ++ (filterOn calls).sourceNames, []⟩

theorem compile_filterOn_eq_error {ordering : List String}
    (described : s.context.describeOrder s.limits = .ok ordering) {calls : List Call}
    (accepted : ∀ c ∈ calls, s.Accepts c)
    (apart : calls.Pairwise fun a b => a.same b = false) (some : calls ≠ []) {e : Failure}
    (h : s.nameCalls (filterSupply calls) calls = .error e) :
    s.compile (filterOn calls) = .error e := by
  have checked : (filterOn calls).check s.catalog = .ok () := by
    rw [filterOn, Statement.check, check_bind_eq_ok, Block.check_eq_ok]
    refine ⟨rfl, by simp [Block.names], by simp, fun p hp => ?_⟩
    obtain rfl := Option.some.inj hp
    exact check_conjunction accepted
  have block : (filterOn calls).block.calls = calls := by
    simp [filterOn, Statement.block, Block.calls, Block.exprs, calls_conjunction]
  have moved : s.promote? (filterOn calls) = .error e := by
    refine promote?_select_eq_error ?_ ?_ ?_
    · simpa [Block.filtersOnWindow, Expr.containsCall, calls_conjunction] using some
    · refine forM_eq_ok.mpr fun p hp => ?_
      have asked : p.1 ∈ calls := by
        rw [← block, ← Block.map_fst_windowCalls]
        exact List.mem_map_of_mem hp
      exact p.1.checkNested_eq_ok.mpr (accepted p.1 asked).sound.unnested
    · rw [Block.map_fst_distinctCalls]
      have kept : distinctKeys Call.same (filterOn calls).block.calls = calls := by
        rw [block]
        exact distinctKeys_of_pairwise apart
      show s.nameCalls (filterSupply calls)
        (distinctKeys Call.same (filterOn calls).block.calls) = .error e
      rw [kept]
      exact h
  simp only [compile_of_describeOrder described, prepare, checked, moved, lift_ok, ok_bind,
    error_bind]

def orderings (c : Call) (count : Nat) : List Call :=
  (List.range count).map fun i => c.orderedBy (String.ofList (List.replicate i 'x'))

theorem pairwise_orderings (c : Call) (count : Nat) :
    (orderings c count).Pairwise fun a b => a.same b = false := by
  refine List.pairwise_map.mpr (List.nodup_range.imp fun {i j} differ => ?_)
  have columns : String.ofList (List.replicate i 'x') ≠ String.ofList (List.replicate j 'x') := by
    intro same
    have lengths := congrArg String.length same
    simp only [String.length_ofList, List.length_replicate] at lengths
    exact differ lengths
  simp [Call.same, Call.toExpr, Call.orderedBy, Expr.same, Expr.sameAll, columns]

end Setting

end WindowSql
