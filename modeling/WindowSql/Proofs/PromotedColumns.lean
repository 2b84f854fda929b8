import Mathlib.Data.List.Pairwise
import WindowSql.Proofs.Promotion

/-!
# Columns of promoted calls

The columns that a split adds, as they are read off its result:

* `promoted_derived`: the calls by name are those that were named, in order;
* `NamesFor.lookup_iff`: a name stands for one call;
* `PromotedUnder.key_unique`: of the distinct calls, none is the same as another one.
-/

namespace WindowSql

theorem upsertBy_of_absent {α β : Type} {same : α → α → Bool} {key : α}
    {change : Option β → β} {pairs : List (α × β)} (h : ∀ p ∈ pairs, same p.1 key = false) :
    upsertBy same key change pairs = pairs ++ [(key, change none)] := by
  induction pairs with
  | nil => rfl
  | cons p rest ih =>
    obtain ⟨first, others⟩ := List.forall_mem_cons.mp h
    simp [upsertBy, first, ih others]

theorem Block.exprs_promotedOuter (b : Block) (names : List (Call × String)) (label : String) :
    (b.promotedOuter names label).exprs = b.exprs.map (b.overPromoted names) := by
  simp [exprs, promotedOuter, Option.toList_map, Function.comp_def]

theorem Block.exprs_promotedInner (b : Block) (names : List (Call × String)) :
    (b.promotedInner names).exprs = names.map (·.1.toExpr) := by
  simp [exprs, promotedInner, Function.comp_def]

theorem Block.names_promotedInner (b : Block) (names : List (Call × String)) :
    (b.promotedInner names).names = names.map Prod.snd := by
  simp [Block.names, promotedInner, Function.comp_def]

theorem Block.calls_promotedInner (b : Block) (names : List (Call × String)) :
    (b.promotedInner names).calls = names.map Prod.fst := by
  rw [calls, exprs_promotedInner, List.flatMap_map, List.map_eq_flatMap]
  rfl

def SelectItem.addPromoted (pairs : List (String × Call)) (item : SelectItem) :
    List (String × Call) :=
  match item.promoted, item.expr with
  | true, .call func args orderBy =>
    upsertBy (· == ·) item.name (fun _ => ⟨func, args, orderBy⟩) pairs
  | _, _ => pairs

theorem foldl_addPromoted {names : List (Call × String)} {pairs : List (String × Call)}
    (apart : (pairs.map Prod.fst ++ names.map Prod.snd).Nodup) :
    (names.map fun p => (⟨p.2, p.1.toExpr, true⟩ : SelectItem)).foldl SelectItem.addPromoted pairs =
      pairs ++ names.map Prod.swap := by
  induction names generalizing pairs with
  | nil => simp
  | cons p rest ih =>
    have fresh : ∀ q ∈ pairs, (q.1 == p.2) = false := by
      intro q hq
      simp only [List.map_cons, List.nodup_append] at apart
      have ne := apart.2.2 q.1 (List.mem_map_of_mem hq) p.2 List.mem_cons_self
      simpa using ne
    have step : SelectItem.addPromoted pairs ⟨p.2, p.1.toExpr, true⟩ = pairs ++ [(p.2, p.1)] :=
      upsertBy_of_absent fresh
    rw [List.map_cons, List.foldl_cons, step, ih]
    · exact List.append_assoc _ _ _
    · simpa using apart

/-- The promoted calls of a split statement are the named ones, by name. -/
theorem Statement.promoted_derived (outer b : Block) (source : Statement)
    {names : List (Call × String)} (nodup : (names.map Prod.snd).Nodup) :
    (derived outer (source.withBlock (b.promotedInner names))).promoted =
      names.map Prod.swap := by
  have all : (names.map fun p => (⟨p.2, p.1.toExpr, true⟩ : SelectItem)).foldl
      SelectItem.addPromoted [] = names.map Prod.swap := foldl_addPromoted (by simpa using nodup)
  rw [promoted, block_withBlock, ← all]
  rfl

/-- In a list of pairs whose keys are distinct, a key has the value it is paired with. -/
theorem lookup_eq_some_iff_mem {β : Type} {l : List (String × β)} {key : String} {v : β}
    (nodup : (l.map Prod.fst).Nodup) : l.lookup key = some v ↔ (key, v) ∈ l := by
  rw [List.lookup_eq_some_iff]
  constructor
  · rintro ⟨before, after, rfl, -⟩
    simp
  · intro mem
    obtain ⟨before, after, rfl⟩ := List.append_of_mem mem
    refine ⟨before, after, rfl, ?_⟩
    intro p hp
    simp only [List.map_append, List.map_cons, List.nodup_append] at nodup
    have ne := nodup.2.2 p.1 (List.mem_map_of_mem hp) key List.mem_cons_self
    simpa using ne.symm

namespace Setting

theorem NamesFor.lookup_iff {calls : List Call} {taken : List String}
    {names : List (Call × String)} (h : NamesFor calls taken names) {name : String} {c : Call} :
    (names.map Prod.swap).lookup name = some c ↔ (c, name) ∈ names := by
  rw [lookup_eq_some_iff_mem]
  · simp
  · simpa [Function.comp_def] using h.nodup

namespace PromotedUnder
variable {s : Setting} {stmt : Statement} {names : List (Call × String)}

theorem keys_eq (h : s.PromotedUnder stmt names) :
    names.map Prod.fst = stmt.block.distinctCalls.map Prod.fst :=
  h.named.keys.trans stmt.block.map_fst_distinctCalls.symm

theorem keys_subset (h : s.PromotedUnder stmt names) : names.map Prod.fst ⊆ stmt.block.calls := by
  rw [h.keys_eq]
  exact Block.distinctCalls_subset

theorem key_mem_calls (h : s.PromotedUnder stmt names) {c : Call} {name : String}
    (mem : (c, name) ∈ names) : c ∈ stmt.block.calls :=
  h.keys_subset (List.mem_map.mpr ⟨_, mem, rfl⟩)

/-- A promoted call can be written. -/
theorem exists_windowColumn (h : s.PromotedUnder stmt names) {c : Call} {name : String}
    (mem : (c, name) ∈ names) : ∃ inWindow w, s.windowColumn inWindow c = .ok w := by
  have key : c ∈ names.map Prod.fst := List.mem_map.mpr ⟨_, mem, rfl⟩
  rw [h.keys_eq] at key
  obtain ⟨p, hp, rfl⟩ := List.mem_map.mp key
  exact ⟨p.2, h.columns p hp⟩

theorem pairwise_keys (h : s.PromotedUnder stmt names) :
    (names.map Prod.fst).Pairwise fun c c' => c.same c' = false := by
  rw [h.named.keys]
  exact pairwise_distinctKeys Call.same_self _

/-- A distinct call is replaced by its own name. -/
theorem lookup_key (h : s.PromotedUnder stmt names) {c : Call} {name : String}
    (mem : (c, name) ∈ names) : lookupBy Call.same names c = some name :=
  lookupBy_of_mem Call.same_self h.pairwise_keys mem

/-- Distinct calls that are the same are one call, under one name. -/
theorem key_unique (h : s.PromotedUnder stmt names) {c c' : Call} {name name' : String}
    (mem : (c, name) ∈ names) (mem' : (c', name') ∈ names) (same : c.same c' = true) :
    c = c' ∧ name = name' := by
  have eq : c = c' := by
    by_contra ne
    have symm : Std.Symm fun c c' : Call => c.same c' = false :=
      ⟨fun a b hab => by rwa [Call.same_comm]⟩
    have apart := h.pairwise_keys.forall (List.mem_map.mpr ⟨_, mem, rfl⟩)
      (List.mem_map.mpr ⟨_, mem', rfl⟩) ne
    simp [apart] at same
  subst eq
  have found := h.lookup_key mem
  rw [h.lookup_key mem'] at found
  exact ⟨rfl, (Option.some.inj found).symm⟩

end PromotedUnder

end Setting

end WindowSql
