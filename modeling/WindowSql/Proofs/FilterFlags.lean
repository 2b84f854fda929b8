import WindowSql.Proofs.PromotedText

/-!
# Statements that are made filters

A statement that is a filter computes its plain aggregates over their partition, and that is all it
does differently:

* `Kept`: a run ends as another one does, unless the other one finds no window for a plain
  aggregate; writing calls, expressions and blocks keeps this, step by step;
* `Statement.Raised`: a statement with more of its levels made filters;
* `promote?_kept`, `statementText_kept`: such a statement is moved and written as the first one is;
* `compile_raised`: so it is compiled to the same text with the same columns.
-/

namespace WindowSql

/-- A run ends as another one does, with a value related to that of the other one or with its
failure; unless the other one found no window for a plain aggregate. -/
inductive Kept {α β : Type} (R : α → β → Prop) : Except Failure α → Except Failure β → Prop where
  | ok {a : α} {b : β} (related : R a b) : Kept R (.ok a) (.ok b)
  | error (e : Failure) : Kept R (.error e) (.error e)
  | windowless (c : Call) (y : Except Failure β) : Kept R (.error (.fault (.noWindow c))) y

namespace Kept
variable {α β γ δ : Type} {R : α → β → Prop} {S : γ → δ → Prop}

theorem refl (x : Except Failure α) : Kept Eq x x := by
  cases x with
  | ok a => exact .ok rfl
  | error e => exact .error e

theorem bind {x : Except Failure α} {y : Except Failure β} {f : α → Except Failure γ}
    {g : β → Except Failure δ} (h : Kept R x y) (rest : ∀ a b, R a b → Kept S (f a) (g b)) :
    Kept S (x >>= f) (y >>= g) := by
  cases h with
  | ok related => exact rest _ _ related
  | error e => exact .error e
  | windowless c y => exact .windowless c _

/-- The same after runs that end with one value. -/
theorem bind_eq {x y : Except Failure α} {f : α → Except Failure γ} {g : α → Except Failure δ}
    (h : Kept Eq x y) (rest : ∀ a, Kept S (f a) (g a)) : Kept S (x >>= f) (y >>= g) := by
  apply h.bind
  rintro a _ rfl
  exact rest a

theorem map {x : Except Failure α} {y : Except Failure β} {f : α → γ} {g : β → δ}
    (h : Kept R x y) (related : ∀ a b, R a b → S (f a) (g b)) : Kept S (x.map f) (y.map g) := by
  cases h with
  | ok hab => exact .ok (related _ _ hab)
  | error e => exact .error e
  | windowless c y => exact .windowless c _

theorem mapM {as : List α} {bs : List β} {f : α → Except Failure γ} {g : β → Except Failure γ}
    (h : List.Forall₂ (fun a b => Kept Eq (f a) (g b)) as bs) :
    Kept Eq (as.mapM f) (bs.mapM g) := by
  induction h with
  | nil => exact .refl _
  | cons first _ ih =>
    rw [List.mapM_cons, List.mapM_cons]
    exact first.bind_eq fun _ => ih.bind_eq fun _ => .refl _

/-- Where the other run ends with a value, so does this one. -/
theorem exists_ok {x : Except Failure α} {y : Except Failure β} (h : Kept R x y) {a : α}
    (ended : x = .ok a) : ∃ b, y = .ok b ∧ R a b := by
  cases h with
  | ok related =>
    cases ended
    exact ⟨_, rfl, related⟩
  | error | windowless => cases ended

/-- Where the other run fails, this one fails alike, or the other one found no window. -/
theorem error_or {x : Except Failure α} {y : Except Failure β} (h : Kept R x y) {e : Failure}
    (failed : x = .error e) : y = .error e ∨ ∃ c, e = .fault (.noWindow c) := by
  cases h with
  | ok => cases failed
  | error =>
    cases failed
    exact .inl rfl
  | windowless c =>
    cases failed
    exact .inr ⟨c, rfl⟩

end Kept

section
variable {inWindow inWindow' : Bool} (raised : inWindow = true → inWindow' = true)
include raised

theorem Call.category_kept (c : Call) (f : WindowFunction) (context : Context) :
    Kept Eq (Fault.lift (c.category f context inWindow))
      (Fault.lift (c.category f context inWindow')) := by
  unfold category
  by_cases other : f.category ≠ .plain
  · rw [if_pos other, if_pos other]
    exact .refl _
  rw [if_neg other, if_neg other]
  cases inWindow with
  | true =>
    rw [raised rfl]
    exact .refl _
  | false =>
    -- an aggregate without a window is the one case that the flag changes
    cases inWindow' with
    | false => exact .refl _
    | true =>
      split
      · exact .refl _
      · exact .windowless c _

theorem Call.windowColumn_kept (l : Limits) (d : Dialect) (render : Expr → Except Failure String)
    (context : Context) (f : WindowFunction) (c : Call) :
    Kept Eq (c.windowColumn l d render context inWindow f)
      (c.windowColumn l d render context inWindow' f) := by
  have window : Kept Eq (c.window f context inWindow) (c.window f context inWindow') :=
    (c.category_kept raised f context).bind_eq fun _ => .refl _
  exact window.bind_eq fun _ => .refl _

namespace Setting
variable (s : Setting)

theorem callText_kept (levels : Nat) (c : Call) :
    Kept Eq (s.callText levels inWindow c) (s.callText levels inWindow' c) := by
  cases levels with
  | zero => exact .refl _
  | succ levels =>
    exact (Kept.refl _).bind_eq fun f =>
      (c.windowColumn_kept raised s.limits s.dialect _ s.context f).bind_eq fun _ => .refl _

theorem windowColumn_kept (c : Call) :
    Kept Eq (s.windowColumn inWindow c) (s.windowColumn inWindow' c) :=
  (Kept.refl _).bind_eq fun f => c.windowColumn_kept raised s.limits s.dialect _ s.context f

end Setting

end

theorem Expr.sql_kept {l : Limits} {d : Dialect} {call call' : Call → Except Failure String}
    (h : ∀ c, Kept Eq (call c) (call' c)) (e : Expr) :
    Kept Eq (e.sql l d call) (e.sql l d call') := by
  induction e with
  | column | literal | desc => exact .refl _
  | call func args orderBy => exact h _
  | binary op l r ihl ihr => exact ihl.bind_eq fun _ => ihr.bind_eq fun _ => .refl _

/-- The block, made a filter or left as it is. -/
inductive Block.Raised (b : Block) : Block → Prop where
  | flag (isFilter : Bool) (kept : b.isFilter = true → isFilter = true) :
    Raised b { b with isFilter }

inductive Statement.Raised : Statement → Statement → Prop where
  | select {b b' : Block} (block : b.Raised b') : Raised (.select b) (.select b')
  | derived {b b' : Block} {q q' : Statement} (block : b.Raised b') (source : Raised q q') :
    Raised (.derived b q) (.derived b' q')

namespace Block

theorem Raised.refl (b : Block) : b.Raised b := .flag b.isFilter id

/-- A call, and one that stands in a filter wherever the first does. -/
structure Flagged (p p' : Call × Bool) : Prop where
  call : p'.1 = p.1
  raised : p.2 = true → p'.2 = true

theorem windowCalls_eq (b : Block) :
    b.windowCalls = (b.items.flatMap (·.expr.calls)).map (·, b.isFilter) ++
      (b.predicate.toList.flatMap (·.calls)).map (·, true) := by
  rw [windowCalls, List.map_flatMap, List.map_flatMap]

theorem Raised.windowCalls {b b' : Block} (h : b.Raised b') :
    List.Forall₂ Flagged b.windowCalls b'.windowCalls := by
  obtain ⟨isFilter, kept⟩ := h
  rw [windowCalls_eq, windowCalls_eq]
  apply List.rel_append
  · rw [List.forall₂_map_left_iff, List.forall₂_map_right_iff, List.forall₂_same]
    exact fun c _ => ⟨rfl, kept⟩
  · rw [List.forall₂_map_left_iff, List.forall₂_map_right_iff, List.forall₂_same]
    exact fun c _ => ⟨rfl, id⟩

theorem Flagged.upsertBy {p p' : Call × Bool} (h : Flagged p p') {pairs pairs' : List (Call × Bool)}
    (before : List.Forall₂ Flagged pairs pairs') :
    List.Forall₂ Flagged
      (upsertBy Call.same p.1 (fun old => old.getD false || p.2) pairs)
      (upsertBy Call.same p'.1 (fun old => old.getD false || p'.2) pairs') := by
  rw [h.call]
  induction before with
  | nil => exact .cons ⟨rfl, by simpa using h.raised⟩ .nil
  | @cons q q' rest rest' first later ih =>
    obtain ⟨c, flag⟩ := q
    obtain ⟨c', flag'⟩ := q'
    obtain rfl : c' = c := first.call
    simp only [WindowSql.upsertBy]
    split
    · refine .cons ⟨rfl, ?_⟩ later
      simp only [Option.getD_some, Bool.or_eq_true]
      exact Or.imp first.raised h.raised
    · exact .cons first ih

/-- A filter has the distinct calls of the block, and they stand in a filter wherever they did. -/
theorem Raised.distinctCalls {b b' : Block} (h : b.Raised b') :
    List.Forall₂ Flagged b.distinctCalls b'.distinctCalls :=
  List.rel_foldl (fun _ _ before _ _ flagged => flagged.upsertBy before) .nil h.windowCalls

theorem Raised.calls {b b' : Block} (h : b.Raised b') : b'.calls = b.calls := by
  cases h
  rfl

theorem Raised.usedNames {b b' : Block} (h : b.Raised b') : b'.usedNames = b.usedNames := by
  cases h
  rfl

theorem Raised.filtersOnWindow {b b' : Block} (h : b.Raised b') :
    b'.filtersOnWindow = b.filtersOnWindow := by
  cases h
  rfl

theorem Raised.exprs {b b' : Block} (h : b.Raised b') : b'.exprs = b.exprs := by
  cases h
  rfl

theorem Raised.checkColumn {b b' inner inner' : Block} (h : b.Raised b')
    (h' : inner.Raised inner') :
    Statement.checkColumn b' inner' = Statement.checkColumn b inner := by
  cases h
  cases h'
  rfl

theorem Raised.items {b b' : Block} (h : b.Raised b') : b'.items = b.items := by
  cases h
  rfl

theorem Raised.promotedOuter {b b' : Block} (h : b.Raised b') (names : List (Call × String))
    (label : String) : (b.promotedOuter names label).Raised (b'.promotedOuter names label) := by
  obtain ⟨isFilter, kept⟩ := h
  exact .flag isFilter kept

theorem Raised.promotedInner {b b' : Block} (h : b.Raised b') (names : List (Call × String)) :
    b'.promotedInner names = b.promotedInner names := by
  cases h
  rfl

end Block

namespace Statement.Raised
variable {stmt stmt' : Statement}

theorem block (h : stmt.Raised stmt') : stmt.block.Raised stmt'.block := by
  cases h with
  | select block => exact block
  | derived block _ => exact block

theorem withBlock (h : stmt.Raised stmt') {b b' : Block} (block : b.Raised b') :
    (stmt.withBlock b).Raised (stmt'.withBlock b') := by
  cases h with
  | select _ => exact .select block
  | derived _ source => exact .derived block source

theorem exposedNames (h : stmt.Raised stmt') : stmt'.exposedNames = stmt.exposedNames := by
  induction h with
  | select block =>
    cases block
    rfl
  | derived block _ ih =>
    cases block
    rw [Statement.exposedNames, Statement.exposedNames, ih]
    rfl

theorem sourceNames (h : stmt.Raised stmt') : stmt'.sourceNames = stmt.sourceNames := by
  cases h with
  | select => rfl
  | derived _ source => exact source.exposedNames

theorem readsPromoted (h : stmt.Raised stmt') : stmt'.readsPromoted = stmt.readsPromoted := by
  cases h with
  | select => rfl
  | derived _ source => rw [Statement.readsPromoted, Statement.readsPromoted, source.block.items]

theorem promoted (h : stmt.Raised stmt') : stmt'.promoted = stmt.promoted := by
  cases h with
  | select => rfl
  | derived _ source => rw [Statement.promoted, Statement.promoted, source.block.items]

/-- The rules for statements do not ask for filters. -/
theorem check (h : stmt.Raised stmt') (catalog : Catalog) :
    stmt'.check catalog = stmt.check catalog := by
  induction h with
  | select block =>
    cases block
    rfl
  | derived block _ ih =>
    cases block
    rw [Statement.check, Statement.check, ih]
    rfl

theorem checkOuter (h : stmt.Raised stmt') : stmt'.checkOuter = stmt.checkOuter := by
  cases h with
  | select block =>
    cases block
    rfl
  | derived block source =>
    simp only [Statement.checkOuter, Statement.block_derived, block.exprs,
      block.checkColumn source.block]

end Statement.Raised

/-- Compilations to one text, the other one from a statement that is a filter at more levels. -/
structure Compiled.Raised (c c' : Compiled) : Prop where
  sql : c'.sql = c.sql
  dialect : c'.dialect = c.dialect
  statement : c.statement.Raised c'.statement
  changed : c'.changed = c.changed

/-! ## Moving, writing and compiling -/

namespace Setting
variable {s : Setting} {stmt stmt' : Statement}

theorem promotedNames_kept (raised : stmt.Raised stmt') :
    Kept Eq (s.promotedNames stmt) (s.promotedNames stmt') := by
  have block := raised.block
  have checks : Kept Eq
      (Fault.lift (stmt.block.windowCalls.forM fun p => p.1.checkNested))
      (Fault.lift (stmt'.block.windowCalls.forM fun p => p.1.checkNested)) := by
    have calls (b : Block) : (b.windowCalls.forM fun p => p.1.checkNested) =
        b.calls.forM Call.checkNested := by
      simp [← b.map_fst_windowCalls]
    rw [calls, calls, block.calls]
    exact .refl _
  have names : Kept Eq
      (s.nameCalls ⟨stmt.block.usedNames ++ stmt.sourceNames, []⟩
        (stmt.block.distinctCalls.map Prod.fst))
      (s.nameCalls ⟨stmt'.block.usedNames ++ stmt'.sourceNames, []⟩
        (stmt'.block.distinctCalls.map Prod.fst)) := by
    rw [Block.map_fst_distinctCalls, Block.map_fst_distinctCalls, block.calls, block.usedNames,
      raised.sourceNames]
    exact .refl _
  have columns : Kept Eq (stmt.block.distinctCalls.mapM fun p => s.windowColumn p.2 p.1)
      (stmt'.block.distinctCalls.mapM fun p => s.windowColumn p.2 p.1) := by
    apply Kept.mapM
    apply block.distinctCalls.imp
    rintro p p' ⟨call, flag⟩
    rw [call]
    exact s.windowColumn_kept flag p.1
  exact checks.bind_eq fun _ => names.bind_eq fun _ => columns.bind_eq fun _ => .refl _

theorem split_kept (raised : stmt.Raised stmt') :
    Kept Statement.Raised (s.split stmt) (s.split stmt') := by
  apply (promotedNames_kept raised).map
  rintro names _ rfl
  have outer := raised.block.promotedOuter names s.options.subqueryLabel
  rw [raised.block.promotedInner]
  exact .derived outer (raised.withBlock (.refl _))

theorem promote?_kept (raised : stmt.Raised stmt') :
    Kept (Option.Rel Statement.Raised) (s.promote? stmt) (s.promote? stmt') := by
  induction raised with
  | @select b b' block =>
    have split := (split_kept (s := s) (.select block)).map (S := Option.Rel Statement.Raised)
      (f := some) (g := some) fun _ _ => .some
    rw [promote?, promote?, block.filtersOnWindow]
    split
    · exact split
    · exact .ok .none
  | @derived b b' q q' block source ih =>
    rw [promote?, promote?, (Statement.Raised.derived block source).readsPromoted,
      block.filtersOnWindow]
    by_cases marked : (Statement.derived b q).readsPromoted = true
    · rw [if_pos marked, if_pos marked]
      exact .ok .none
    rw [if_neg marked, if_neg marked]
    apply ih.bind
    intro moved moved' related
    split
    · have source' : (moved.getD q).Raised (moved'.getD q') := by
        cases related with
        | some raised => exact raised
        | none => exact source
      exact (split_kept (.derived block source')).map fun _ _ => .some
    · cases related with
      | some raised => exact .ok (.some (.derived block raised))
      | none => exact .ok .none

section
variable {inWindow inWindow' : Bool} (raised : inWindow = true → inWindow' = true)
include raised

theorem text_kept (e : Expr) : Kept Eq (s.text inWindow e) (s.text inWindow' e) :=
  Expr.sql_kept (s.callText_kept raised _) e

theorem itemText_kept (item : SelectItem) :
    Kept Eq (s.itemText inWindow item) (s.itemText inWindow' item) := by
  have computed : (inWindow || item.promoted) = true → (inWindow' || item.promoted) = true := by
    simpa only [Bool.or_eq_true] using Or.imp_left raised
  apply (text_kept computed item.expr).map
  rintro t _ rfl
  rfl

end

theorem selectText_kept {b b' : Block} (raised : b.Raised b') :
    Kept Eq (s.selectText b) (s.selectText b') := by
  obtain ⟨isFilter, kept⟩ := raised
  have items : Kept Eq (b.items.mapM (s.itemText b.isFilter))
      (b.items.mapM (s.itemText isFilter)) :=
    .mapM (List.forall₂_same.mpr fun item _ => itemText_kept kept item)
  exact items.bind_eq fun _ => .refl _

/-- A filter reads from what the block reads from, and filters alike. -/
theorem clauses_raised {b b' : Block} (raised : b.Raised b') :
    s.tableText b' = s.tableText b ∧ s.subqueryText b' = s.subqueryText b ∧
      s.filterText b' = s.filterText b := by
  cases raised
  exact ⟨rfl, rfl, rfl⟩

theorem statementText_kept (raised : stmt.Raised stmt') :
    Kept Eq (s.statementText stmt) (s.statementText stmt') := by
  induction raised with
  | select block =>
    obtain ⟨table, -, filter⟩ := clauses_raised (s := s) block
    rw [statementText, statementText, table, filter]
    exact (selectText_kept block).bind_eq fun _ => .refl _
  | derived block _ ih =>
    obtain ⟨-, subquery, filter⟩ := clauses_raised (s := s) block
    rw [statementText, statementText, subquery, filter]
    exact (selectText_kept block).bind_eq fun _ => ih.bind_eq fun _ => .refl _

theorem prepare_kept (raised : stmt.Raised stmt') :
    Kept (fun p p' => p.1.Raised p'.1 ∧ p'.2 = p.2) (s.prepare stmt) (s.prepare stmt') := by
  rw [prepare, prepare, raised.check]
  apply (Kept.refl _).bind_eq
  intro _
  apply (promote?_kept raised).bind
  intro moved moved' related
  cases related with
  | none => exact .ok ⟨raised, rfl⟩
  | some moved =>
    dsimp only
    rw [moved.checkOuter]
    exact (Kept.refl _).bind_eq fun _ => .ok ⟨moved, rfl⟩

theorem compile_kept (raised : stmt.Raised stmt') :
    Kept Compiled.Raised (s.compile stmt) (s.compile stmt') := by
  apply (Kept.refl _).bind_eq
  intro _
  apply (prepare_kept raised).bind
  rintro ⟨prepared, changed⟩ ⟨prepared', changed'⟩ ⟨statement, rfl⟩
  apply (statementText_kept statement).bind
  rintro sql _ rfl
  exact .ok ⟨rfl, rfl, statement, rfl⟩

/-- **Filters only add statements.** Where a statement is compiled it is also compiled with any of
its levels made filters, to the same text and with the same calls promoted under the same names.
Where it is not compiled it fails alike with these levels made filters, unless it failed for a plain
aggregate that had no window. -/
theorem compile_raised (s : Setting) {stmt stmt' : Statement} (raised : stmt.Raised stmt') :
    (∀ c, s.compile stmt = .ok c → ∃ c', s.compile stmt' = .ok c' ∧ c'.sql = c.sql ∧
      c'.promoted = c.promoted ∧ c'.dialect = c.dialect ∧ c'.changed = c.changed ∧
      c.statement.Raised c'.statement) ∧
    ∀ e, s.compile stmt = .error e →
      s.compile stmt' = .error e ∨ ∃ call, e = .fault (.noWindow call) := by
  have kept := compile_kept (s := s) raised
  constructor
  · intro c compiled
    obtain ⟨c', compiled', same⟩ := kept.exists_ok compiled
    exact ⟨c', compiled', same.sql, same.statement.promoted, same.dialect, same.changed,
      same.statement⟩
  · exact fun e => kept.error_or

def totalOfTopFilter : Statement :=
  .select { totalOfTop.block with isFilter := true }

/-- The total is computed over the partition in any case. -/
theorem compile_raised_total :
    totalOfTop.Raised totalOfTopFilter ∧
    ∃ c c', byYear.compile totalOfTop = .ok c ∧ byYear.compile totalOfTopFilter = .ok c' ∧
      c'.sql = c.sql ∧ c'.promoted = c.promoted ∧ c.statement = totalOfTopMoved := by
  have raised : totalOfTop.Raised totalOfTopFilter := .select (.flag true fun _ => rfl)
  obtain ⟨c, compiled, moved⟩ :
      ∃ c, byYear.compile totalOfTop = .ok c ∧ c.statement = totalOfTopMoved := ⟨_, rfl, rfl⟩
  obtain ⟨c', compiled', sql, promoted, -⟩ := (compile_raised byYear raised).1 c compiled
  exact ⟨raised, c, c', compiled, compiled', sql, promoted, moved⟩

/-- Without a partition the total has a window as a filter only. -/
example : postgres.compile totalOfTop = .error (.fault (.noWindow ⟨"sum", [.column "AB"], none⟩)) ∧
    ∃ c, postgres.compile totalOfTopFilter = .ok c :=
  ⟨rfl, _, rfl⟩

end Setting

end WindowSql
