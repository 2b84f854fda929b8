import WindowSql.Proofs.Calls
import WindowSql.Proofs.TextFailures

/-!
# Where `desc` may stand

What the check of `desc` leaves to be written:

* `noDesc_of_checkDesc`, `stripDesc_of_checkDesc`: no `desc` outside the calls of an expression that
  is no key, and none below the chain of `desc` of one that is;
* `Call.Sound`: a call that is known, holds no call, and has `desc` only where a key is read;
* `Scalar.exists_sql_iff`: an expression without calls and `desc` is written where its constants
  are;
* `Sound.windowColumn_failsOnly`: where ranking functions are ordered by an argument or by the
  context, such a call is written but for its window: every `desc` it has is stripped or dropped.
-/

namespace WindowSql

namespace Expr

theorem NoDesc.stripDesc_eq {e : Expr} (h : e.NoDesc) : e.stripDesc = e := by
  cases e with
  | desc e => exact h.elim
  | column | literal | call | binary => rfl

theorem NoDesc.replaceCalls {e : Expr} (h : e.NoDesc) (alias? : Call → Option String) :
    (e.replaceCalls alias?).NoDesc := by
  induction e with
  | column name => trivial
  | literal v => trivial
  | call func args orderBy =>
    rw [Expr.replaceCalls]
    split <;> trivial
  | binary op l r ihl ihr => exact ⟨ihl h.1, ihr h.2⟩
  | desc e => exact h.elim

theorem NoDesc.unqualify {e : Expr} (h : e.NoDesc) (qualifiers : List String) :
    (e.unqualify qualifiers).NoDesc := by
  induction e with
  | column name =>
    rw [unqualify_column]
    trivial
  | literal v => trivial
  | call func args orderBy => trivial
  | binary op l r ihl ihr => exact ⟨ihl h.1, ihr h.2⟩
  | desc e => exact h.elim

theorem calls_stripDesc (e : Expr) : e.stripDesc.calls = e.calls := by
  induction e with
  | desc e ih => exact ih
  | _ => rfl

variable {catalog : Catalog} {place : Place}

theorem noDesc_of_checkDesc {e : Expr} (h : e.checkDesc catalog place false = .ok ()) :
    e.NoDesc := by
  induction e with
  | column name => trivial
  | literal v => trivial
  | call func args orderBy => trivial
  | binary op l r ihl ihr =>
    rw [checkDesc, check_bind_eq_ok] at h
    exact ⟨ihl h.1, ihr h.2⟩
  | desc e => cases h

theorem stripDesc_of_checkDesc {e : Expr} {isKey : Bool}
    (h : e.checkDesc catalog place isKey = .ok ()) : e.stripDesc.NoDesc := by
  induction e generalizing isKey with
  | column name => trivial
  | literal v => trivial
  | call func args orderBy => trivial
  | binary op l r =>
    rw [checkDesc, check_bind_eq_ok] at h
    exact ⟨noDesc_of_checkDesc h.1, noDesc_of_checkDesc h.2⟩
  | desc e ih =>
    cases isKey with
    | true => exact ih h
    | false => cases h

/-- The calls of a checked expression are checked. -/
theorem checkDesc_of_mem_calls {e : Expr} {isKey : Bool}
    (h : e.checkDesc catalog place isKey = .ok ()) {c : Call} (hc : c ∈ e.calls) :
    c.toExpr.checkDesc catalog place false = .ok () := by
  induction e generalizing isKey with
  | column name => cases hc
  | literal v => cases hc
  | call func args orderBy =>
    obtain rfl := List.mem_singleton.mp hc
    cases orderBy <;> simpa only [Call.toExpr, checkDesc] using h
  | binary op l r ihl ihr =>
    rw [checkDesc, check_bind_eq_ok] at h
    rcases List.mem_append.mp hc with left | right
    · exact ihl h.1 left
    · exact ihr h.2 right
  | desc e ih =>
    cases isKey with
    | true => exact ih h hc
    | false => cases h

theorem checkDescs_eq_ok {es : List Expr} {first others : Bool} :
    checkDescs catalog place first others es = .ok () ↔
      (∀ e ∈ es.head?, e.checkDesc catalog place first = .ok ()) ∧
      ∀ e ∈ es.tail, e.checkDesc catalog place others = .ok () := by
  induction es generalizing first with
  | nil => simp [checkDescs]
  | cons e rest ih =>
    rw [checkDescs, check_bind_eq_ok, ih]
    cases rest <;> simp

end Expr

namespace Call

/-- A `desc` stands only where the window reads a key: at the first argument of a ranking function
and at the keys of a call. -/
structure PlacesDesc (f : WindowFunction) (c : Call) : Prop where
  first : ∀ e ∈ c.args.head?, if f.category = .ranking then e.stripDesc.NoDesc else e.NoDesc
  others : ∀ e ∈ c.args.tail, e.NoDesc
  keys : ∀ k ∈ c.keys, k.stripDesc.NoDesc

theorem placesDesc_of_checkDesc {catalog : Catalog} {place : Place} {c : Call}
    (h : c.toExpr.checkDesc catalog place false = .ok ()) :
    ∃ f, catalog.get c.func = .ok f ∧ c.PlacesDesc f := by
  obtain ⟨func, args, orderBy⟩ := c
  have first {f : WindowFunction} {e : Expr}
      (h : e.checkDesc catalog place (f.category == .ranking) = .ok ()) :
      if f.category = .ranking then e.stripDesc.NoDesc else e.NoDesc := by
    split
    · exact Expr.stripDesc_of_checkDesc h
    · rename_i other
      rw [beq_eq_false_iff_ne.mpr other] at h
      exact Expr.noDesc_of_checkDesc h
  cases orderBy with
  | none =>
    simp only [toExpr, Expr.checkDesc, bind_eq_ok, Expr.checkDescs_eq_ok] at h
    obtain ⟨f, known, head, tail⟩ := h
    exact ⟨f, known, fun e he => first (head e he),
      fun e he => Expr.noDesc_of_checkDesc (tail e he), nofun⟩
  | some keys =>
    rw [toExpr, Expr.checkDesc, bind_eq_ok] at h
    obtain ⟨f, known, h⟩ := h
    simp only [check_bind_eq_ok, Expr.checkDescs_eq_ok] at h
    obtain ⟨⟨head, tail⟩, headKey, otherKeys⟩ := h
    refine ⟨f, known, fun e he => first (head e he),
      fun e he => Expr.noDesc_of_checkDesc (tail e he), fun k hk => ?_⟩
    cases keys with
    | nil => cases hk
    | cons key rest =>
      rcases List.mem_cons.mp hk with rfl | hk
      · exact Expr.stripDesc_of_checkDesc (headKey _ rfl)
      · exact Expr.stripDesc_of_checkDesc (otherKeys k hk)

/-- A call that is known, holds no other call, and has `desc` only where a key is read. -/
structure Sound (catalog : Catalog) (c : Call) : Prop where
  unnested : c.nested? = none
  known : ∃ f, catalog.get c.func = .ok f ∧ c.PlacesDesc f

end Call

/-- An expression that is no key, and whose calls are sound. -/
structure Expr.Sound (catalog : Catalog) (e : Expr) : Prop where
  noDesc : e.NoDesc
  calls : ∀ c ∈ e.calls, c.Sound catalog

theorem Expr.sound_of_check {catalog : Catalog} {place : Place} {e : Expr}
    (h : e.check catalog place = .ok ()) : e.Sound catalog := by
  simp only [Expr.check, check_bind_eq_ok, forM_eq_ok, Call.check] at h
  obtain ⟨placed, calls⟩ := h
  refine ⟨noDesc_of_checkDesc placed, fun c hc => ?_⟩
  exact ⟨c.checkNested_eq_ok.mp (calls c hc).1,
    Call.placesDesc_of_checkDesc (checkDesc_of_mem_calls placed hc)⟩

/-- An expression without calls and `desc`. -/
def Expr.Scalar (e : Expr) : Prop := e.NoDesc ∧ e.calls = []

theorem Expr.Scalar.operands {op : BinaryOp} {l r : Expr} (h : (binary op l r).Scalar) :
    l.Scalar ∧ r.Scalar := by
  obtain ⟨noDesc, noCalls⟩ := h
  obtain ⟨left, right⟩ := List.append_eq_nil_iff.mp noCalls
  exact ⟨⟨noDesc.1, left⟩, noDesc.2, right⟩

/-- It has a text exactly where its constants have one. -/
theorem Expr.Scalar.exists_sql_iff {e : Expr} (h : e.Scalar) (l : Limits) (d : Dialect)
    (call : Call → Except Failure String) :
    (∃ t, e.sql l d call = .ok t) ↔ ∀ v ∈ e.outerLiterals, v.Admitted l := by
  induction e with
  | column name => simp [sql, outerLiterals]
  | literal v =>
    simp only [sql, LongInteger.lift_eq_ok, Dialect.literal_eq_ok, outerLiterals,
      List.forall_mem_singleton]
    constructor
    · rintro ⟨_, admitted, -⟩
      exact admitted
    · exact fun admitted => ⟨_, admitted, rfl⟩
  | call func args orderBy => cases h.2
  | binary op a b iha ihb =>
    obtain ⟨left, right⟩ := h.operands
    rw [outerLiterals, List.forall_mem_append, ← iha left, ← ihb right]
    simp [sql, bind_eq_ok]
  | desc e => exact h.1.elim

theorem Expr.Scalar.sql_failsOnly {e : Expr} (h : e.Scalar) (l : Limits) (d : Dialect)
    (call : Call → Except Failure String) : FailsOnly (Failure.OfLimit l) (e.sql l d call) := by
  refine Expr.sql_failsOnly (fun c hc => ?_) (fun v _ => d.literal_failsOnly l v) (.inl h.1)
  rw [h.2] at hc
  cases hc

/-- The default ordering of a context, if there is one, is by a column. -/
def Context.OrderedByColumn (context : Context) : Prop :=
  ∀ k, context.defaultOrder = some k → ∃ name, k.expr = .column name

/-- A ranking function looks for its ordering in its first argument or in the context. -/
def WindowFunction.RanksByKey (f : WindowFunction) : Prop :=
  f.category = .ranking → f.orderSource ≠ .explicitOrdering

namespace Call
variable {c : Call} {f : WindowFunction}

theorem PlacesDesc.stripDesc_args (h : c.PlacesDesc f) : ∀ e ∈ c.args, e.stripDesc.NoDesc := by
  intro e he
  have strip {e : Expr} (plain : e.NoDesc) : e.stripDesc.NoDesc := by rwa [plain.stripDesc_eq]
  cases args : c.args with
  | nil => simp [args] at he
  | cons first rest =>
    rw [args] at he
    rcases List.mem_cons.mp he with rfl | he
    · have head := h.first e (by simp [args])
      split at head
      · exact head
      · exact strip head
    · exact strip (h.others e (by simpa [args] using he))

/-- No key of the ordering has a call or a `desc` below its chain. -/
theorem PlacesDesc.scalar_ordering (h : c.PlacesDesc f) (unnested : c.nested? = none)
    {context : Context} (ordered : context.OrderedByColumn) :
    ∀ k ∈ c.ordering f context, k.expr.Scalar := by
  obtain ⟨noCalls, noKeyCalls⟩ := c.nested?_eq_none_iff.mp unnested
  have arg (e : Expr) (he : e ∈ c.args) : e.orderKey.expr.Scalar :=
    ⟨h.stripDesc_args e he, (e.calls_stripDesc).trans (noCalls e he)⟩
  have key (e : Expr) (he : e ∈ c.keys) : e.orderKey.expr.Scalar :=
    ⟨h.keys e he, (e.calls_stripDesc).trans (noKeyCalls e he)⟩
  intro k hk
  unfold ordering at hk
  split at hk
  · rename_i e first
    obtain rfl := List.mem_singleton.mp hk
    refine arg e ?_
    unfold keyArgument? at first
    split at first
    · exact List.mem_of_mem_head? (Option.filter_eq_some_iff.mp first).1
    · cases first
  · rename_i first rest _ keys
    rw [← keys] at hk
    obtain ⟨e, he, rfl⟩ := List.mem_map.mp hk
    exact key e he
  · rename_i k' _ _ default
    obtain rfl := List.mem_singleton.mp hk
    obtain ⟨name, column⟩ := ordered k default
    rw [column]
    exact ⟨trivial, rfl⟩
  · obtain ⟨e, he, rfl⟩ := List.mem_map.mp hk
    refine arg e ?_
    unfold lastResort? at he
    split at he
    · exact List.mem_of_find?_eq_some (Option.mem_toList.mp he)
    · cases he

/-- No argument that is written has a call or a `desc`. -/
theorem PlacesDesc.scalar_writtenArgs (h : c.PlacesDesc f) (unnested : c.nested? = none)
    (ranks : f.RanksByKey) : ∀ e ∈ c.writtenArgs f, e.Scalar := by
  obtain ⟨noCalls, -⟩ := c.nested?_eq_none_iff.mp unnested
  have tail (e : Expr) (he : e ∈ c.args.tail) : e.Scalar :=
    ⟨h.others e he, noCalls e (List.mem_of_mem_tail he)⟩
  have all (first : ∀ e ∈ c.args.head?, e.NoDesc) (e : Expr) (he : e ∈ c.args) : e.Scalar := by
    cases args : c.args with
    | nil => simp [args] at he
    | cons a rest =>
      rw [args] at he
      rcases List.mem_cons.mp he with rfl | he
      · exact ⟨first e (by simp [args]), noCalls e (by simp [args])⟩
      · exact tail e (by simpa [args] using he)
  intro e he
  unfold writtenArgs at he
  split at he
  · rename_i ranking
    split at he
    · cases he
    · rename_i notContext
      have source : f.orderSource = .firstArgument := by
        cases hs : f.orderSource with
        | firstArgument => rfl
        | contextOnly => exact absurd hs notContext
        | explicitOrdering => exact absurd hs (ranks ranking)
      split at he
      · exact tail e he
      · rename_i noKey
        -- an argument that is no key here is a literal
        refine all (fun e first => ?_) e he
        rw [keyArgument?, if_pos source, Option.mem_def.mp first] at noKey
        cases e with
        | literal v => trivial
        | column | call | binary | desc => simp [Expr.isLiteral] at noKey
  · rename_i other
    refine all (fun e first => ?_) e he
    have plain := h.first e first
    rwa [if_neg other] at plain

/-- A sound call fails for its window, or for an integer that is too long. -/
theorem Sound.windowColumn_failsOnly {catalog : Catalog} (h : c.Sound catalog) {l : Limits}
    {d : Dialect} {render : Expr → Except Failure String} {context : Context}
    (hrender : ∀ e : Expr, e.Scalar → FailsOnly (Failure.OfLimit l) (render e))
    (ordered : context.OrderedByColumn) (known : catalog.get c.func = .ok f)
    (ranks : f.RanksByKey) (inWindow : Bool) :
    FailsOnly (Failure.OfWriting l d context) (c.windowColumn l d render context inWindow f) := by
  obtain ⟨f', known', places⟩ := h.known
  obtain rfl : f' = f := Except.ok.inj (known'.symm.trans known)
  refine Call.windowColumn_failsOnly (fun _ => .inl) ?_ ?_ ?_
  · intro e he
    exact (hrender e (places.scalar_writtenArgs h.unnested ranks e he)).imp fun _ => .inr
  · intro k hk
    exact (hrender k.expr (places.scalar_ordering h.unnested ordered k hk)).imp fun _ => .inr
  · exact fun _ w _ => (w.frameClause_failsOnly l _).imp fun _ => .inr

end Call

end WindowSql
