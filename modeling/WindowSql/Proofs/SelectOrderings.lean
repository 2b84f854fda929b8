import WindowSql.Context.Select
import WindowSql.Proofs.Outcomes

/-!
# Orderings of selects

An entry of an ordering is a chain of unary operations around a leaf. It orders rows by a column
where all operations are modifiers and the leaf is a named column:

* `Element.OrdersBy`: the column that such an entry orders by, and which way;
* `directionIn_eq`: the direction that is read on the way down the chain, said of all of it;
* `orderKey_eq_ok_iff`: the entries that are taken over;
* `ordering_kept_iff`: an entry is taken over as the ordering that it is, exactly where no operation
  computes a value and the leaf is a column, or where the leaf has no name.
-/

namespace WindowSql

def Unary.isModifier : Unary → Bool
  | negation => false
  | _ => true

def Unary.direction? : Unary → Option Direction
  | ascending => some .asc
  | descending => some .desc
  | _ => none

namespace Element

def operations : Element → List Unary
  | unary op e => op :: e.operations
  | _ => []

/-- Every operation only says how to order. -/
def Modified (e : Element) : Prop := ∀ op ∈ e.operations, op.isModifier = true

instance (e : Element) : Decidable e.Modified :=
  inferInstanceAs (Decidable (∀ op ∈ e.operations, op.isModifier = true))

/-- The direction of an ordering by an entry: the one that is given next to the leaf, or
ascending. -/
def direction (e : Element) : Direction :=
  (e.operations.reverse.findSome? Unary.direction?).getD .asc

/-- An entry that orders rows by a column, in its direction. -/
structure OrdersBy (e : Element) (name : String) : Prop where
  leaf : e.base = .column name
  named : name ≠ ""
  modified : e.Modified

theorem directionIn_eq (e : Element) (outer : Direction) :
    e.directionIn outer = (e.operations.reverse.findSome? Unary.direction?).getD outer := by
  induction e generalizing outer with
  | column | label | unnamed => rfl
  | unary op e ih =>
    rw [operations, List.reverse_cons, List.findSome?_append]
    cases op with
    | ascending | descending =>
      rw [directionIn, ih]
      cases e.operations.reverse.findSome? Unary.direction? <;> rfl
    | nullsFirst | nullsLast | negation =>
      rw [directionIn, ih]
      · cases e.operations.reverse.findSome? Unary.direction? <;> rfl
      · nofun
      · nofun

theorem name?_eq_some {e : Element} {name : String} :
    e.name? = some name ↔ name ≠ "" ∧ (e = .column name ∨ e = .label name) := by
  cases e with
  | column n | label n =>
    by_cases empty : n = ""
    · subst empty
      simp only [name?, reduceCtorEq, or_false, false_or, column.injEq, label.injEq]
      constructor
      · nofun
      · rintro ⟨named, rfl⟩
        exact absurd rfl named
    · have full : n.isEmpty = false := by simpa using empty
      simp only [name?, full, Bool.false_eq_true, ↓reduceIte, Option.some.injEq, column.injEq,
        label.injEq, reduceCtorEq, or_false, false_or]
      constructor
      · rintro rfl
        exact ⟨empty, rfl⟩
      · rintro ⟨-, rfl⟩
        rfl
  | unnamed | unary => simp [name?]

/-- An entry is taken over where its leaf has a name. -/
theorem orderKey_eq_ok_iff {e : Element} {k : OrderKey} :
    e.orderKey = .ok k ↔ ∃ name, e.base.name? = some name ∧ k = ⟨.column name, e.direction⟩ := by
  rw [orderKey, direction, directionIn_eq]
  cases e.base.name? <;> simp [eq_comm]

theorem orderKey_eq_error {e : Element} {fault : ConfigFault} (h : e.orderKey = .error fault) :
    fault = .unnamedColumn "order_by" := by
  unfold orderKey at h
  split at h
  · cases h
  · exact (Except.error.inj h).symm

/-- A key that is taken over is the ordering by its entry exactly where no operation computes a
value and the leaf is a column. -/
theorem ordersBy_iff {e : Element} {k : OrderKey} (h : e.orderKey = .ok k) :
    (∃ name, e.OrdersBy name ∧ k = ⟨.column name, e.direction⟩) ↔
      e.Modified ∧ ∃ name, e.base = .column name := by
  obtain ⟨name, found, rfl⟩ := orderKey_eq_ok_iff.mp h
  constructor
  · rintro ⟨name', ordered, -⟩
    exact ⟨ordered.modified, name', ordered.leaf⟩
  · rintro ⟨modified, name', leaf⟩
    obtain ⟨named, same⟩ := name?_eq_some.mp found
    rw [leaf] at same
    obtain rfl : name' = name := by simpa using same
    exact ⟨name', ⟨leaf, named, modified⟩, rfl⟩

theorem exists_orderKey_iff {e : Element} : (∃ k, e.orderKey = .ok k) ↔ e.base.name? ≠ none := by
  unfold orderKey
  cases e.base.name? <;> simp

theorem orderKey_kept_iff {e : Element} :
    (∀ k, e.orderKey = .ok k → ∃ name, e.OrdersBy name ∧ k = ⟨.column name, e.direction⟩) ↔
      e.base.name? = none ∨ e.Modified ∧ ∃ name, e.base = .column name := by
  by_cases unnamed : e.base.name? = none
  · refine iff_of_true (fun k taken => ?_) (.inl unnamed)
    exact absurd unnamed (exists_orderKey_iff.mp ⟨k, taken⟩)
  · rw [or_iff_right unnamed]
    obtain ⟨k, taken⟩ := exists_orderKey_iff.mpr unnamed
    constructor
    · exact fun kept => (ordersBy_iff taken).mp (kept k taken)
    · exact fun ordered k taken => (ordersBy_iff taken).mpr ordered

theorem groupName_eq_error {e : Element} {fault : ConfigFault} (h : e.groupName = .error fault) :
    fault = .unnamedColumn "group_by" := by
  unfold groupName at h
  split at h
  · cases h
  · exact (Except.error.inj h).symm

theorem groupName_eq_ok {e : Element} {name : String} :
    e.groupName = .ok name ↔ e.name? = some name := by
  unfold groupName
  cases e.name? <;> simp

end Element

namespace Select

def orderedBy (q : Select) (e : Element) : Select := { q with orderBy := [e] }

theorem context_orderedBy (q : Select) (e : Element) (profile : Profile) :
    (q.orderedBy e).context profile =
      (q.groupBy.mapM Element.groupName >>= fun names =>
        e.orderKey.map fun k => ⟨names.map .str, some k, profile⟩) := by
  rw [context, orderedBy]
  congr 1
  funext names
  rw [List.mapM_cons]
  cases e.orderKey <;> rfl

/-- A select that is ordered by one entry leads to a context exactly where its grouping has names
and the entry is taken over. -/
theorem context_orderedBy_eq_ok {q : Select} {e : Element} {profile : Profile} {c : Context} :
    (q.orderedBy e).context profile = .ok c ↔
      ∃ names k, q.groupBy.Forall₂ (fun g name => g.name? = some name) names ∧
        e.orderKey = .ok k ∧ c = ⟨names.map .str, some k, profile⟩ := by
  simp only [context_orderedBy, bind_eq_ok, map_eq_ok, mapM_eq_ok, Element.groupName_eq_ok,
    @eq_comm _ c, exists_and_left]

theorem exists_names_iff {gs : List Element} :
    (∃ names, gs.Forall₂ (fun g name => g.name? = some name) names) ↔
      ∀ g ∈ gs, g.name? ≠ none := by
  induction gs with
  | nil => simp
  | cons g gs ih =>
    rw [List.forall_mem_cons, ← ih]
    constructor
    · rintro ⟨_, _ | ⟨named, rest⟩⟩
      exact ⟨by simp [named], _, rest⟩
    · rintro ⟨named, names, rest⟩
      obtain ⟨name, named⟩ := Option.ne_none_iff_exists'.mp named
      exact ⟨name :: names, .cons named rest⟩

theorem exists_context_orderedBy_iff {q : Select} {e : Element} {profile : Profile} :
    (∃ c, (q.orderedBy e).context profile = .ok c) ↔
      (∀ g ∈ q.groupBy, g.name? ≠ none) ∧ ∃ k, e.orderKey = .ok k := by
  simp only [context_orderedBy_eq_ok, ← exists_names_iff]
  constructor
  · rintro ⟨_, names, k, grouped, taken, -⟩
    exact ⟨⟨names, grouped⟩, k, taken⟩
  · rintro ⟨⟨names, grouped⟩, k, taken⟩
    exact ⟨_, names, k, grouped, taken, rfl⟩

theorem context_orderedBy_kept_iff {q : Select} {e : Element} {profile : Profile} :
    (∀ c, (q.orderedBy e).context profile = .ok c →
        ∃ name, e.OrdersBy name ∧ c.defaultOrder = some ⟨.column name, e.direction⟩) ↔
      (∃ g ∈ q.groupBy, g.name? = none) ∨ e.base.name? = none ∨
        e.Modified ∧ ∃ name, e.base = .column name := by
  by_cases grouped : ∃ g ∈ q.groupBy, g.name? = none
  · refine iff_of_true (fun c led => ?_) (.inl grouped)
    obtain ⟨g, grouping, unnamed⟩ := grouped
    exact absurd unnamed ((exists_context_orderedBy_iff.mp ⟨c, led⟩).1 g grouping)
  · rw [or_iff_right grouped, ← Element.orderKey_kept_iff]
    push Not at grouped
    obtain ⟨names, named⟩ := exists_names_iff.mpr grouped
    constructor
    · intro kept k taken
      obtain ⟨name, ordered, same⟩ :=
        kept _ (context_orderedBy_eq_ok.mpr ⟨names, k, named, taken, rfl⟩)
      exact ⟨name, ordered, Option.some.inj same⟩
    · intro kept c led
      obtain ⟨_, k, -, taken, rfl⟩ := context_orderedBy_eq_ok.mp led
      obtain ⟨name, ordered, rfl⟩ := kept k taken
      exact ⟨name, ordered, rfl⟩

theorem context_orderedBy_failsOnly (q : Select) (e : Element) (profile : Profile) :
    FailsOnly (fun fault => fault = .unnamedColumn "group_by" ∨ fault = .unnamedColumn "order_by")
      ((q.orderedBy e).context profile) := by
  rw [context_orderedBy]
  apply FailsOnly.bind
  · apply FailsOnly.mapM
    intro g _ fault refused
    exact .inl (Element.groupName_eq_error refused)
  · intro names _
    apply FailsOnly.map
    intro fault refused
    exact .inr (Element.orderKey_eq_error refused)

/-- What one entry in the ordering of a select leads to.

* Every context that comes of it keeps the ordering exactly where there is no such context, or no
  operation of the entry computes a value and its leaf is a column.
* A context comes of it exactly where the grouping has names, and so does the leaf of the entry.
* All else is refused for a missing name. -/
theorem ordering_kept_iff (q : Select) (e : Element) (profile : Profile) :
    ((∀ c, (q.orderedBy e).context profile = .ok c →
        ∃ name, e.OrdersBy name ∧ c.defaultOrder = some ⟨.column name, e.direction⟩) ↔
      (∃ g ∈ q.groupBy, g.name? = none) ∨ e.base.name? = none ∨
        e.Modified ∧ ∃ name, e.base = .column name) ∧
    ((∃ c, (q.orderedBy e).context profile = .ok c) ↔
      (∀ g ∈ q.groupBy, g.name? ≠ none) ∧ e.base.name? ≠ none) ∧
    ∀ fault, (q.orderedBy e).context profile = .error fault →
      fault = .unnamedColumn "group_by" ∨ fault = .unnamedColumn "order_by" := by
  refine ⟨context_orderedBy_kept_iff, ?_, context_orderedBy_failsOnly q e profile⟩
  rw [exists_context_orderedBy_iff, Element.exists_orderKey_iff]

/-- The games of each player, with the most of them first. -/
def mostGamesFirst : Select where
  sources := [.table none "batting" none]
  groupBy := [.column "playerID"]
  orderBy := [.unary .negation (.column "G")]

/-- A negated column is taken over as the column itself: the most games come last. -/
theorem negated_column_ordered :
    mostGamesFirst.context {} = .ok ⟨[.str "playerID"], some ⟨.column "G", .asc⟩, {}⟩ ∧
    ¬∃ name, (Element.unary .negation (.column "G")).OrdersBy name := by
  constructor
  · rfl
  · rintro ⟨name, ordered⟩
    exact absurd ordered.modified (by decide)

end Select

end WindowSql
