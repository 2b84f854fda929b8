import Mathlib.Logic.Function.Iterate
import WindowSql.Proofs.WindowFrames
import WindowSql.Proofs.WindowNesting

/-!
# Where an ordering comes from

The keys of a window are those of one source, the first that has any:

* `Expr.IsKey`, `isKey_iff`: the key that an expression gives, below its chain of `desc`;
* `Call.Offers`: the keys that each of the four sources has for a call;
* `windowOrdering_iff`: the ordering of a window is that of the first source with a key, and an
  aggregate over its partition that can have no frame is left without one;
* `orderBy_eq_of_shares`: sources behind the one that an ordering is taken from do not matter;
* `window_misses`, `sql_failsOnly_missing`: an ordering is missed only by a call that no source has
  a key for, the call itself or one that is written in its window;
* `ordering_source`: all this for every call, function and context.
-/

namespace WindowSql

/-- The key that an expression gives: what stands below its chain of `desc`, downwards where the
chain is odd. -/
structure Expr.IsKey (e : Expr) (k : OrderKey) : Prop where
  below : ∀ x, k.expr ≠ .desc x
  chain : ∃ n, e = Expr.desc^[n] k.expr ∧ (k.direction = .desc ↔ n % 2 = 1)

namespace Expr

theorem orderKey_iterate_desc {e : Expr} (bare : ∀ x, e ≠ .desc x) (n : Nat) :
    (desc^[n] e).stripDesc = e ∧ ((desc^[n] e).chainDirection = .desc ↔ n % 2 = 1) := by
  induction n with
  | zero =>
    cases e with
    | desc e => exact absurd rfl (bare e)
    | column | literal | call | binary => exact ⟨rfl, by simp [chainDirection]⟩
  | succ n ih =>
    obtain ⟨strip, direction⟩ := ih
    rw [Function.iterate_succ_apply', stripDesc, chainDirection]
    refine ⟨strip, ?_⟩
    have parity : (n + 1) % 2 = 1 ↔ ¬n % 2 = 1 := by omega
    rw [parity, ← direction]
    cases (desc^[n] e).chainDirection <;> simp [Direction.flip]

theorem isKey_orderKey (e : Expr) : e.IsKey e.orderKey := by
  induction e with
  | desc e ih =>
    obtain ⟨below, n, same, direction⟩ := ih
    refine ⟨below, n + 1, ?_, ?_⟩
    · rw [Function.iterate_succ_apply']
      exact congrArg desc same
    · have parity : (n + 1) % 2 = 1 ↔ ¬n % 2 = 1 := by omega
      rw [parity, ← direction]
      simp only [orderKey, chainDirection]
      cases e.chainDirection <;> simp [Direction.flip]
  | column | literal | call | binary => exact ⟨nofun, 0, rfl, by simp [orderKey, chainDirection]⟩

/-- Every expression gives one key. -/
theorem isKey_iff {e : Expr} {k : OrderKey} : e.IsKey k ↔ k = e.orderKey := by
  constructor
  · rintro ⟨below, n, rfl, direction⟩
    obtain ⟨strip, direction'⟩ := orderKey_iterate_desc below n
    obtain ⟨expr, dir⟩ := k
    have same : dir = (desc^[n] expr).chainDirection := by
      have both := direction.trans direction'.symm
      cases dir <;> cases h : (desc^[n] expr).chainDirection <;> simp_all
    rw [orderKey, strip, ← same]
  · rintro rfl
    exact e.isKey_orderKey

theorem isLiteral_iff {e : Expr} : e.isLiteral = true ↔ ∃ v, e = .literal v := by
  cases e <;> simp [isLiteral]

theorem isLiteral_eq_false_iff {e : Expr} : e.isLiteral = false ↔ ∀ v, e ≠ .literal v := by
  cases e <;> simp [isLiteral]

end Expr

/-- The sources of an ordering, the first one first. -/
inductive KeySource where
  | firstArgument | call | context | anyArgument
  deriving DecidableEq, Repr

namespace KeySource

def earlier : KeySource → List KeySource
  | firstArgument => []
  | call => [firstArgument]
  | context => [firstArgument, call]
  | anyArgument => [firstArgument, call, context]

theorem earlier_of_ne {a b : KeySource} (h : a ≠ b) : a ∈ b.earlier ∨ b ∈ a.earlier := by
  cases a <;> cases b <;> first | exact absurd rfl h | simp [earlier]

end KeySource

namespace Call

/-- The keys that a source has for a call. -/
inductive Offers (c : Call) (f : WindowFunction) (context : Context) :
    KeySource → List OrderKey → Prop where
  /-- A function may be ordered by its first argument, unless that is a literal. -/
  | firstArgument {e : Expr} {rest : List Expr} {k : OrderKey}
    (source : f.orderSource = .firstArgument) (args : c.args = e :: rest)
    (other : ∀ v, e ≠ .literal v) (key : e.IsKey k) : Offers c f context .firstArgument [k]
  | call {e : Expr} {rest : List Expr} {keys : List OrderKey} (own : c.orderBy = some (e :: rest))
    (each : List.Forall₂ Expr.IsKey (e :: rest) keys) : Offers c f context .call keys
  | context {k : OrderKey} (given : context.defaultOrder = some k) :
    Offers c f context .context [k]
  /-- A ranking function that is ordered by the context falls back on its first argument that is no
  literal. -/
  | anyArgument {literals rest : List Expr} {e : Expr} {k : OrderKey}
    (ranking : f.category = .ranking) (source : f.orderSource = .contextOnly)
    (args : c.args = literals ++ e :: rest) (passed : ∀ a ∈ literals, ∃ v, a = .literal v)
    (other : ∀ v, e ≠ .literal v) (key : e.IsKey k) : Offers c f context .anyArgument [k]

/-- The keys of a source, none if it has none. -/
def keysOf (c : Call) (f : WindowFunction) (context : Context) : KeySource → List OrderKey
  | .firstArgument => (c.keyArgument? f).toList.map (·.orderKey)
  | .call => c.keys.map (·.orderKey)
  | .context => context.defaultOrder.toList
  | .anyArgument => (c.lastResort? f).toList.map (·.orderKey)

variable {c : Call} {f : WindowFunction} {context : Context} {source : KeySource}
  {keys : List OrderKey}

theorem keyArgument?_eq_some_iff {e : Expr} :
    c.keyArgument? f = some e ↔
      f.orderSource = .firstArgument ∧ (∃ rest, c.args = e :: rest) ∧ ∀ v, e ≠ .literal v := by
  unfold keyArgument?
  by_cases source : f.orderSource = .firstArgument
  · simp only [source, ↓reduceIte, Option.filter_eq_some_iff, List.head?_eq_some_iff,
      Bool.not_eq_true', Expr.isLiteral_eq_false_iff, true_and]
  · simp [source]

theorem lastResort?_eq_some_iff {e : Expr} :
    c.lastResort? f = some e ↔ (f.category = .ranking ∧ f.orderSource = .contextOnly) ∧
      (∀ v, e ≠ .literal v) ∧
      ∃ literals rest, c.args = literals ++ e :: rest ∧
        ∀ a ∈ literals, ∃ v, a = .literal v := by
  unfold lastResort?
  by_cases source : f.category = .ranking ∧ f.orderSource = .contextOnly
  · simp only [if_pos source, List.find?_eq_some_iff_append, Bool.not_eq_true',
      Expr.isLiteral_eq_false_iff, Bool.not_not, Expr.isLiteral_iff]
    simp [source]
  · rw [if_neg source]
    simp [source]

theorem forall₂_isKey_iff {es : List Expr} :
    List.Forall₂ Expr.IsKey es keys ↔ keys = es.map (·.orderKey) := by
  induction es generalizing keys with
  | nil => simp
  | cons e rest ih =>
    rw [List.forall₂_cons_left_iff]
    simp only [Expr.isKey_iff, ih]
    simp

theorem eq_keys_of_option_iff {e? : Option Expr} :
    keys ≠ [] ∧ keys = e?.toList.map (·.orderKey) ↔ ∃ e, e? = some e ∧ keys = [e.orderKey] := by
  cases e? with
  | none => simp
  | some e =>
    simp only [Option.toList_some, List.map_cons, List.map_nil, Option.some.injEq,
      exists_eq_left', and_iff_right_iff_imp]
    rintro rfl
    exact List.cons_ne_nil _ _

theorem offers_iff :
    c.Offers f context source keys ↔ keys ≠ [] ∧ keys = c.keysOf f context source := by
  cases source with
  | firstArgument =>
    rw [keysOf, eq_keys_of_option_iff]
    constructor
    · intro h
      cases h with
      | firstArgument source args other key =>
        refine ⟨_, keyArgument?_eq_some_iff.mpr ⟨source, ⟨_, args⟩, other⟩, ?_⟩
        rw [Expr.isKey_iff.mp key]
    · rintro ⟨e, first, rfl⟩
      obtain ⟨source, ⟨rest, args⟩, other⟩ := keyArgument?_eq_some_iff.mp first
      exact .firstArgument source args other e.isKey_orderKey
  | call =>
    rw [keysOf, Call.keys]
    constructor
    · intro h
      cases h with
      | call own each =>
        rw [own]
        obtain rfl := forall₂_isKey_iff.mp each
        exact ⟨List.cons_ne_nil _ _, rfl⟩
    · rintro ⟨some, rfl⟩
      cases own : c.orderBy with
      | none => simp [own] at some
      | some es =>
        cases es with
        | nil => simp [own] at some
        | cons e rest => exact .call own (forall₂_isKey_iff.mpr rfl)
  | context =>
    rw [keysOf]
    constructor
    · intro h
      cases h with
      | context given => simp [given]
    · rintro ⟨some, rfl⟩
      cases given : context.defaultOrder with
      | none => simp [given] at some
      | some k => exact .context given
  | anyArgument =>
    rw [keysOf, eq_keys_of_option_iff]
    constructor
    · intro h
      cases h with
      | anyArgument ranking source args passed other key =>
        refine ⟨_, lastResort?_eq_some_iff.mpr
          ⟨⟨ranking, source⟩, other, _, _, args, passed⟩, ?_⟩
        rw [Expr.isKey_iff.mp key]
    · rintro ⟨e, first, rfl⟩
      obtain ⟨⟨ranking, source⟩, other, literals, rest, args, passed⟩ :=
        lastResort?_eq_some_iff.mp first
      exact .anyArgument ranking source args passed other e.isKey_orderKey

/-- The keys of a call are those of the first source that has any. -/
theorem ordering_cases (c : Call) (f : WindowFunction) (context : Context) :
    (∃ source, c.Offers f context source (c.ordering f context) ∧
      ∀ earlier ∈ source.earlier, c.keysOf f context earlier = []) ∨
    c.ordering f context = [] ∧ ∀ source, c.keysOf f context source = [] := by
  simp only [offers_iff]
  cases first : c.keyArgument? f with
  | some e => exact .inl ⟨.firstArgument, by simp [ordering, keysOf, first], nofun⟩
  | none =>
    cases own : c.keys with
    | cons k rest =>
      exact .inl ⟨.call, by simp [ordering, keysOf, first, own],
        by simp [KeySource.earlier, keysOf, first]⟩
    | nil =>
      cases given : context.defaultOrder with
      | some k =>
        exact .inl ⟨.context, by simp [ordering, keysOf, first, own, given],
          by simp [KeySource.earlier, keysOf, first, own]⟩
      | none =>
        cases last : c.lastResort? f with
        | some e =>
          exact .inl ⟨.anyArgument, by simp [ordering, keysOf, first, own, given, last],
            by simp [KeySource.earlier, keysOf, first, own, given]⟩
        | none =>
          refine .inr ⟨by simp [ordering, first, own, given, last], fun source => ?_⟩
          cases source <;> simp [keysOf, first, own, given, last]

/-! ## The ordering of a window -/

/-- An aggregate over its partition that has no frames and brings no ordering. -/
structure Unordered (c : Call) (context : Context) (category : Category) : Prop where
  recycled : category = .recycled
  frameless : context.profile.frames = false
  own : c.orderBy = none ∨ c.orderBy = some []

/-- The keys of a window are those of a source, and no earlier one has any. -/
structure TakesFrom (c : Call) (f : WindowFunction) (context : Context) (category : Category)
    (source : KeySource) (keys : List OrderKey) : Prop where
  ordered : ¬c.Unordered context category
  offered : c.Offers f context source keys
  first : ∀ earlier ∈ source.earlier, ∀ keys', ¬c.Offers f context earlier keys'

/-- No source has a key for a window, or none is asked. -/
def TakesNone (c : Call) (f : WindowFunction) (context : Context) (category : Category) : Prop :=
  c.Unordered context category ∨ ∀ source keys, ¬c.Offers f context source keys

/-- The ordering of a window: the keys of the first source that has any. -/
def OrderedBy (c : Call) (f : WindowFunction) (context : Context) (category : Category)
    (keys : List OrderKey) : Prop :=
  (∃ source, c.TakesFrom f context category source keys) ∨
    keys = [] ∧ c.TakesNone f context category

variable {category : Category}

theorem not_offers_iff :
    (∀ keys, ¬c.Offers f context source keys) ↔ c.keysOf f context source = [] := by
  simp only [offers_iff]
  constructor
  · intro none
    by_contra some
    exact none _ ⟨some, rfl⟩
  · rintro none keys ⟨some, rfl⟩
    exact some none

theorem unordered_iff : c.Unordered context category ↔
    category = .recycled ∧ (!context.profile.frames) = true ∧ c.keys.isEmpty = true := by
  have own : c.keys.isEmpty = true ↔ c.orderBy = none ∨ c.orderBy = some [] := by
    unfold Call.keys
    cases c.orderBy <;> simp
  rw [own, Bool.not_eq_true']
  exact ⟨fun ⟨recycled, frameless, own⟩ => ⟨recycled, frameless, own⟩,
    fun ⟨recycled, frameless, own⟩ => ⟨recycled, frameless, own⟩⟩

theorem orderedBy_windowOrdering (c : Call) (f : WindowFunction) (context : Context)
    (category : Category) :
    c.OrderedBy f context category (c.windowOrdering f context category) := by
  unfold windowOrdering
  by_cases unordered : c.Unordered context category
  · rw [if_pos (unordered_iff.mp unordered)]
    exact .inr ⟨rfl, .inl unordered⟩
  · rw [if_neg fun none => unordered (unordered_iff.mpr none)]
    rcases c.ordering_cases f context with ⟨source, offered, first⟩ | ⟨none, nowhere⟩
    · refine .inl ⟨source, unordered, offered, fun earlier before => ?_⟩
      exact not_offers_iff.mpr (first earlier before)
    · exact .inr ⟨none, .inr fun source => not_offers_iff.mpr (nowhere source)⟩

/-- One source gives the keys of a window. -/
theorem TakesFrom.unique {source' : KeySource} {keys' : List OrderKey}
    (h : c.TakesFrom f context category source keys)
    (h' : c.TakesFrom f context category source' keys') : keys = keys' := by
  by_cases same : source = source'
  · subst same
    rw [(offers_iff.mp h.offered).2, (offers_iff.mp h'.offered).2]
  · rcases KeySource.earlier_of_ne same with before | before
    · exact absurd h.offered (h'.first source before keys)
    · exact absurd h'.offered (h.first source' before keys')

theorem TakesFrom.not_takesNone (h : c.TakesFrom f context category source keys) :
    ¬c.TakesNone f context category := by
  rintro (unordered | none)
  · exact h.ordered unordered
  · exact none source keys h.offered

/-- **The rule decides the ordering.** -/
theorem windowOrdering_iff :
    c.OrderedBy f context category keys ↔ keys = c.windowOrdering f context category := by
  constructor
  · intro h
    rcases h with ⟨source, h⟩ | ⟨rfl, none⟩ <;>
      rcases c.orderedBy_windowOrdering f context category with ⟨source', h'⟩ | ⟨empty, none'⟩
    · exact h.unique h'
    · exact absurd none' h.not_takesNone
    · exact absurd none h'.not_takesNone
    · exact empty.symm
  · rintro rfl
    exact c.orderedBy_windowOrdering f context category

/-- Two calls of a function have the same keys in a source and in all before it. -/
def SharesSources (f : WindowFunction) (c : Call) (context : Context) (c' : Call)
    (context' : Context) (source : KeySource) : Prop :=
  ∀ shared ∈ source :: source.earlier, ∀ keys,
    c'.Offers f context' shared keys ↔ c.Offers f context shared keys

/-- A window that takes its keys from a source takes them from there whatever later sources have. -/
theorem SharesSources.takesFrom {c' : Call} {context' : Context} {category' : Category}
    (shares : SharesSources f c context c' context' source)
    (h : c.TakesFrom f context category source keys)
    (ordered : ¬c'.Unordered context' category') :
    c'.TakesFrom f context' category' source keys := by
  refine ⟨ordered, ?_, ?_⟩
  · exact (shares source List.mem_cons_self keys).mpr h.offered
  · intro earlier before keys' offered
    have same := shares earlier (List.mem_cons_of_mem _ before) keys'
    exact h.first earlier before keys' (same.mp offered)

theorem TakesFrom.ne_nil (h : c.TakesFrom f context category source keys) : keys ≠ [] :=
  (offers_iff.mp h.offered).1

section
variable {c' : Call} {context' : Context} {inWindow inWindow' : Bool} {category' : Category}
  {w w' : Window}

/-- Where one of two windows is left without an ordering for want of frames, so is the other. -/
theorem orderBy_eq_of_unordered (h : c.window f context inWindow = .ok (category, w))
    (h' : c'.window f context' inWindow' = .ok (category', w'))
    (frames : context'.profile.frames = context.profile.frames)
    (unordered : c.Unordered context category ∨ c'.Unordered context' category') :
    w'.orderBy = w.orderBy := by
  obtain ⟨found, -⟩ := window_eq_ok.mp h
  obtain ⟨found', -⟩ := window_eq_ok.mp h'
  have same : category' = category := by rw [category_of_eq_ok found, category_of_eq_ok found']
  have bare : category = .recycled ∧ context.profile.frames = false := by
    rcases unordered with ⟨recycled, frameless, -⟩ | ⟨recycled, frameless, -⟩
    · exact ⟨recycled, frameless⟩
    · exact ⟨same.symm.trans recycled, frames.symm.trans frameless⟩
  obtain ⟨rfl, frameless⟩ := bare
  subst same
  rw [orderBy_of_frameless h frameless, orderBy_of_frameless h' (frames.trans frameless)]

/-- Two windows are ordered alike where the one takes its ordering from a source that both share. -/
theorem orderBy_eq_of_shares (h : c.window f context inWindow = .ok (category, w))
    (h' : c'.window f context' inWindow' = .ok (category', w'))
    (frames : context'.profile.frames = context.profile.frames)
    (taken : c.TakesFrom f context category source w.orderBy)
    (shares : SharesSources f c context c' context' source) : w'.orderBy = w.orderBy := by
  by_cases unordered : c'.Unordered context' category'
  · exact orderBy_eq_of_unordered h h' frames (.inr unordered)
  · obtain ⟨-, -, orderBy', -, -⟩ := window_eq_ok.mp h'
    have taken' := shares.takesFrom taken unordered
    rw [orderBy']
    exact (windowOrdering_iff.mp (.inl ⟨source, taken'⟩)).symm

end

end Call

/-- A call whose function needs an ordering, while no source has a key for it. -/
structure Call.LacksOrder (c : Call) (f : WindowFunction) (context : Context) (inWindow : Bool) :
    Prop where
  required : f.requiresOrder = true
  none : ∃ category, c.category f context inWindow = .ok category ∧ c.TakesNone f context category

/-- The call that a missing ordering is reported of, if that is what went wrong. -/
def Failure.MissesOnly (P : Call → Prop) : Failure → Prop
  | .fault (.missingOrder c) => P c
  | _ => True

theorem FailsOnly.misses_imp {α : Type} {P Q : Call → Prop} {x : Except Failure α}
    (h : FailsOnly (Failure.MissesOnly P) x) (imp : ∀ c, P c → Q c) :
    FailsOnly (Failure.MissesOnly Q) x := by
  intro failure failed
  have misses := h failure failed
  unfold Failure.MissesOnly at misses ⊢
  split at misses
  · exact imp _ misses
  · trivial

namespace Call

theorem category_misses {P : Call → Prop} (c : Call) (f : WindowFunction) (context : Context)
    (inWindow : Bool) :
    FailsOnly (fun e => Failure.MissesOnly P (.fault e)) (c.category f context inWindow) := by
  unfold category
  split
  · exact .ok _
  · split
    · exact .ok _
    · exact .error trivial

theorem frame_misses {P : Call → Prop} (c : Call) (f : WindowFunction) (category : Category)
    (profile : Profile) (ordered : Bool) :
    FailsOnly (fun e => Failure.MissesOnly P (.fault e)) (c.frame f category profile ordered) := by
  unfold frame
  split
  · exact .error trivial
  · exact .ok _
  · split
    · exact .ok _
    · exact .error trivial

/-- A window that misses an ordering is that of a call no source has a key for. -/
theorem window_misses (c : Call) (f : WindowFunction) (context : Context) (inWindow : Bool) :
    FailsOnly (Failure.MissesOnly fun c' => c' = c ∧ c.LacksOrder f context inWindow)
      (c.window f context inWindow) := by
  refine (FailsOnly.lift (c.category_misses f context inWindow)).bind fun category found => ?_
  dsimp only
  split
  · rename_i missing
    obtain ⟨empty, required⟩ := missing
    refine .error ⟨rfl, required, category, lift_eq_ok.mp found, ?_⟩
    have ordering := c.orderedBy_windowOrdering f context category
    rw [List.isEmpty_iff.mp empty] at ordering
    rcases ordering with ⟨source, taken⟩ | ⟨-, none⟩
    · exact absurd rfl taken.ne_nil
    · exact none
  · refine (FailsOnly.lift (c.frame_misses f category _ _)).bind fun frame _ => ?_
    exact FailsOnly.bind (.mapError fun _ _ => trivial) fun partition _ => .ok _

end Call

namespace Setting
variable {s : Setting}

/-- A call that is met while expressions are written: one of theirs, or one that is met in the
window of such a call. -/
inductive Meets (s : Setting) : List Expr → Call → Prop where
  | here {es : List Expr} {e : Expr} {c : Call} (mem : e ∈ es) (call : c ∈ e.calls) :
    Meets s es c
  | inside {es : List Expr} {e : Expr} {c c' : Call} {f : WindowFunction} {category : Category}
    {w : Window} (mem : e ∈ es) (call : c ∈ e.calls) (known : s.catalog.get c.func = .ok f)
    (window : c.window f s.context false = .ok (category, w))
    (met : Meets s (c.inside f w) c') : Meets s es c'

structure MeetsLacking (s : Setting) (es : List Expr) (c : Call) : Prop where
  met : s.Meets es c
  lacks : ∃ f, s.catalog.get c.func = .ok f ∧ c.LacksOrder f s.context false

theorem sql_failsOnly_missing (levels : Nat) {es : List Expr} {e : Expr} (mem : e ∈ es) :
    FailsOnly (Failure.MissesOnly (s.MeetsLacking es))
      (e.sql s.limits s.dialect (s.callText levels false)) := by
  induction levels generalizing es e with
  | zero =>
    exact Expr.sql_failsOnly (fun c _ => .error trivial) (fun _ _ _ _ => trivial)
      (.inr fun _ => trivial)
  | succ levels ih =>
    refine Expr.sql_failsOnly (fun c call => ?_) (fun _ _ _ _ => trivial) (.inr fun _ => trivial)
    rw [callText]
    have catalog : FailsOnly (Failure.MissesOnly (s.MeetsLacking es))
        (Fault.lift (s.catalog.get c.func)) := by
      refine .lift ?_
      unfold Catalog.get
      split
      · exact .ok _
      · exact .error trivial
    refine catalog.bind fun f known => ?_
    have known := lift_eq_ok.mp known
    refine FailsOnly.bind ?_ fun column _ => .ok _
    refine Call.windowColumn_failsOnly_of_inside ?_ ?_ trivial fun _ _ _ _ _ => trivial
    · apply (c.window_misses f s.context false).misses_imp
      rintro c' ⟨rfl, lacks⟩
      exact ⟨.here mem call, f, known, lacks⟩
    · intro category w window x hx
      apply (ih hx).misses_imp
      intro c' lacking
      exact ⟨.inside mem call known window lacking.met, lacking.lacks⟩

/-- A window column that misses an ordering is that of a call no source has a key for, or there is
such a call in its window. -/
theorem windowColumnIn_misses (s : Setting) (context : Context) (inWindow : Bool)
    (f : WindowFunction) (c : Call) :
    FailsOnly (Failure.MissesOnly fun c' => c' = c ∧ c.LacksOrder f context inWindow ∨
        ∃ category w, c.window f context inWindow = .ok (category, w) ∧
          s.MeetsLacking (c.inside f w) c')
      (s.windowColumnIn context inWindow f c) := by
  refine Call.windowColumn_failsOnly_of_inside ?_ ?_ trivial fun _ _ _ _ _ => trivial
  · apply (c.window_misses f context inWindow).misses_imp
    intro c' lacks
    exact .inl lacks
  · intro category w window e he
    unfold textWithin
    apply (sql_failsOnly_missing _ he).misses_imp
    intro c' lacking
    exact .inr ⟨category, w, window, lacking⟩

/-- **An ordering has one source.** The keys of a window are those of the first source that has any,
and there are some wherever the function needs them. Another call of the function, in whatever
context, that has the same keys in that source and in those before it is ordered alike, and so is
every one where the first is left without an ordering for want of frames. An ordering that is missed
is one of a call no source has a key for: the call itself or, where the window of that is made, one
that is written in it. -/
theorem ordering_source (s : Setting) (context : Context) (inWindow : Bool) (f : WindowFunction)
    (c : Call) :
    (∀ w, s.windowColumnIn context inWindow f c = .ok w →
      (∀ keys, c.OrderedBy f context w.category keys ↔ keys = w.window.orderBy) ∧
      (f.requiresOrder = true → w.window.orderBy ≠ []) ∧
      ∀ (s' : Setting) (context' : Context) (inWindow' : Bool) (c' : Call) (w' : WindowColumn),
        s'.windowColumnIn context' inWindow' f c' = .ok w' →
        context'.profile.frames = context.profile.frames →
        (c.Unordered context w.category ∨
          ∃ source, c.TakesFrom f context w.category source w.window.orderBy ∧
            Call.SharesSources f c context c' context' source) →
        w'.window.orderBy = w.window.orderBy) ∧
    ∀ c', s.windowColumnIn context inWindow f c = .error (.fault (.missingOrder c')) →
      c' = c ∧ c.LacksOrder f context inWindow ∨
      ∃ category w, c.window f context inWindow = .ok (category, w) ∧
        s.MeetsLacking (c.inside f w) c' := by
  constructor
  · intro w h
    obtain ⟨window, -, -⟩ := Call.windowColumn_eq_ok.mp h
    obtain ⟨-, required, orderBy, -, -⟩ := Call.window_eq_ok.mp window
    refine ⟨?_, ?_, ?_⟩
    · intro keys
      rw [orderBy]
      exact Call.windowOrdering_iff
    · intro needs none
      rw [orderBy] at none
      exact required ⟨List.isEmpty_iff.mpr none, needs⟩
    · intro s' context' inWindow' c' w' h' frames kept
      obtain ⟨window', -, -⟩ := Call.windowColumn_eq_ok.mp h'
      rcases kept with unordered | ⟨source, taken, shares⟩
      · exact Call.orderBy_eq_of_unordered window window' frames (.inl unordered)
      · exact Call.orderBy_eq_of_shares window window' frames taken shares
  · intro c' h
    exact s.windowColumnIn_misses context inWindow f c _ h

def rankByContext : WindowFunction :=
  { WindowFunction.ranking "rank" "RANK" with orderSource := .contextOnly }

/-- A rank of a constant and of the games, turned round three times. -/
def rankOfGames : Call :=
  ⟨"rank", [.literal (.int 5), .desc (.desc (.desc (.column "G")))], some []⟩

/-- The games of the year after, which nothing orders. -/
def nextGames : Call := ⟨"lead", [.column "G"], none⟩

def aroundGames : Call := ⟨"lag", [nextGames.toExpr], some [.column "yearID"]⟩

/-- A rank falls back on its second argument, and a call in a call has to have an ordering too. -/
theorem ordering_source_games :
    (∃ w, postgres.windowColumnIn {} true rankByContext rankOfGames = .ok w ∧
      rankOfGames.OrderedBy rankByContext {} w.category [⟨.column "G", .desc⟩] ∧
      w.window.orderBy ≠ []) ∧
    postgres.windowColumnIn {} true (.offset "lag" "LAG") aroundGames =
      .error (.fault (.missingOrder nextGames)) ∧
    ∃ category w, aroundGames.window (.offset "lag" "LAG") {} true = .ok (category, w) ∧
      postgres.MeetsLacking (aroundGames.inside (.offset "lag" "LAG") w) nextGames := by
  have ranked : postgres.windowColumnIn {} true rankByContext rankOfGames = .ok _ := rfl
  have missed : postgres.windowColumnIn {} true (.offset "lag" "LAG") aroundGames =
      .error (.fault (.missingOrder nextGames)) := rfl
  obtain ⟨ordered, required, -⟩ :=
    (ordering_source postgres {} true rankByContext rankOfGames).1 _ ranked
  refine ⟨⟨_, ranked, (ordered _).mpr rfl, required rfl⟩, missed, ?_⟩
  rcases (ordering_source postgres {} true (.offset "lag" "LAG") aroundGames).2 _ missed with
    ⟨same, -⟩ | inside
  · exact absurd (congrArg Call.func same) (by decide)
  · exact inside

end Setting

end WindowSql
