import WindowSql.Proofs.Recompilation
import WindowSql.Proofs.Stability

/-!
# Moving filters in two contexts

A run asks the context for the window of every call it moves. What comes of the run has nothing of
the answers in it:

* `nameCalls_congr`: the names of the calls depend on the catalog, the options and the objects;
* `promotedNames_eq_of_ok`, `split_eq_of_ok`: where one context splits a block, another one splits
  it alike once it has computed the windows;
* `promotion_ignores_context`: a run that succeeds in one context is, in another one, a run that
  computes the windows of the same calls in the same order and ends with the same statement.
-/

namespace WindowSql

def Block.movedCalls (b : Block) : List (Call × Bool) :=
  if b.filtersOnWindow then b.distinctCalls else []

/-- The calls whose windows a run computes, in the order in which it does. -/
def Statement.movedCalls : Statement → List (Call × Bool)
  | select b => b.movedCalls
  | derived b s =>
    if (derived b s).readsPromoted then [] else s.movedCalls ++ b.movedCalls

/-- Settings that have all but their contexts and dialects in common. -/
structure Setting.SharesNames (s t : Setting) : Prop where
  catalog : t.catalog = s.catalog
  options : t.options = s.options
  limits : t.limits = s.limits
  objects : t.objects = s.objects

namespace Setting
variable {s t : Setting}

def computeWindows (s : Setting) (calls : List (Call × Bool)) :
    Except Failure (List WindowColumn) :=
  calls.mapM fun p => s.windowColumn p.2 p.1

theorem computeWindows_append (s : Setting) (calls calls' : List (Call × Bool)) :
    s.computeWindows (calls ++ calls') =
      s.computeWindows calls >>= fun first =>
        (s.computeWindows calls').map fun second => first ++ second := by
  rw [computeWindows, List.mapM_append]
  rfl

section
variable (shared : s.SharesNames t)
include shared

theorem nameCalls_congr (supply : NameSupply) (calls : List Call) :
    t.nameCalls supply calls = s.nameCalls supply calls := by
  induction calls generalizing supply with
  | nil => rfl
  | cons c rest ih => simp only [nameCalls, shared.catalog, shared.options, shared.objects, ih]

/-- Where the calls of a block have names in one context, they have the same ones in another, unless
one of their windows fails there. -/
theorem promotedNames_eq_of_ok {stmt : Statement} {names : List (Call × String)}
    (h : s.promotedNames stmt = .ok names) :
    t.promotedNames stmt = (t.computeWindows stmt.block.distinctCalls).map fun _ => names := by
  simp only [promotedNames, bind_eq_ok, pure_eq_ok, Except.ok.injEq] at h
  obtain ⟨_, unnested, names, given, -, -, -, -, shown, described, rfl⟩ := h
  rw [← nameCalls_congr shared] at given
  rw [← shared.limits] at described
  simp only [promotedNames, unnested, given, ok_bind]
  cases computed : t.computeWindows stmt.block.distinctCalls with
  | error e =>
    rw [computeWindows] at computed
    rw [computed]
    rfl
  | ok columns =>
    -- the partition is that of the context, so it is one for all of them
    have single := t.checkPartitions_of_windowColumns computed
    rw [computeWindows] at computed
    rw [computed, ok_bind, single, lift_ok, ok_bind, described]
    rfl

theorem split_eq_of_ok {stmt r : Statement} (h : s.split stmt = .ok r) :
    t.split stmt = (t.computeWindows stmt.block.distinctCalls).map fun _ => r := by
  obtain ⟨names, given, rfl⟩ := split_eq_ok.mp h
  rw [split, promotedNames_eq_of_ok shared given, shared.options]
  cases t.computeWindows stmt.block.distinctCalls <;> rfl

/-- A run that ends in one context ends alike in another, unless a window fails there. -/
theorem promote?_eq_of_ok {stmt : Statement} {moved : Option Statement}
    (h : s.promote? stmt = .ok moved) :
    t.promote? stmt = (t.computeWindows stmt.movedCalls).map fun _ => moved := by
  induction stmt generalizing moved with
  | select b =>
    rw [promote?, Statement.movedCalls, Block.movedCalls]
    rcases promote?_select_eq_ok.mp h with ⟨plain, rfl⟩ | ⟨filters, r, split, rfl⟩
    · rw [plain]
      rfl
    · rw [if_pos filters, if_pos filters, split_eq_of_ok shared split, Statement.block]
      cases t.computeWindows b.distinctCalls <;> rfl
  | derived b q ih =>
    rw [promote?, Statement.movedCalls]
    rcases promote?_derived_eq_ok.mp h with
      ⟨marked, rfl⟩ | ⟨unmarked, m, source, ⟨plain, rfl⟩ | ⟨filters, r, split, rfl⟩⟩
    · rw [if_pos marked, if_pos marked]
      rfl
    · have nothing : b.movedCalls = [] := by simp [Block.movedCalls, plain]
      rw [unmarked, plain, nothing, List.append_nil, ih source]
      cases computed : t.computeWindows q.movedCalls <;> simp [computed, Except.map]
    · have all : b.movedCalls = b.distinctCalls := if_pos filters
      have above := split_eq_of_ok shared split
      rw [Statement.block] at above
      rw [unmarked, filters, all, ih source]
      simp only [Bool.false_eq_true, ↓reduceIte, computeWindows_append]
      -- the windows of the source come first, and those of the block once they are there
      cases t.computeWindows q.movedCalls with
      | error e => rfl
      | ok first =>
        simp only [Except.map, ok_bind, above]
        cases t.computeWindows b.distinctCalls <;> rfl

end

/-- **The context decides nothing but success.** In two settings with the same functions and
options, whatever their dialects, partitions, orderings and profiles: where a run succeeds in the
one, the run in the other computes the windows of the calls to be moved and ends with the same
statement, at every depth, or with the failure of one of these windows. So two compilations that
succeed write the same statement, with the same promoted calls under the same names in the same
order. -/
theorem promotion_ignores_context (s t : Setting) (shared : s.SharesNames t) {stmt : Statement}
    {moved : Option Statement} (h : s.promote? stmt = .ok moved) :
    (∀ moved', t.promote? stmt = .ok moved' → moved' = moved) ∧
    t.promote? stmt = (t.computeWindows stmt.movedCalls).map (fun _ => moved) ∧
    ∀ c c', s.compile stmt = .ok c → t.compile stmt = .ok c' →
      c'.statement = c.statement ∧ c'.changed = c.changed ∧ c'.promoted = c.promoted := by
  have run := promote?_eq_of_ok shared h
  have same (moved' : Option Statement) (h' : t.promote? stmt = .ok moved') : moved' = moved := by
    obtain ⟨_, -, ended⟩ := map_eq_ok.mp (run.symm.trans h')
    exact ended.symm
  refine ⟨same, run, ?_⟩
  intro c c' compiled compiled'
  obtain ⟨-, -, m, here, -, _, -, rfl⟩ := compile_eq_ok.mp compiled
  obtain ⟨-, -, m', there, -, _, -, rfl⟩ := compile_eq_ok.mp compiled'
  obtain rfl : m = moved := Except.ok.inj (here.symm.trans h)
  obtain rfl := same m' there
  exact ⟨rfl, rfl, rfl⟩

def sqliteByTeam : Setting :=
  { dialect := .sqlite
    context :=
      { partition := [.str "teamID"]
        defaultOrder := some ⟨.column "yearID", .desc⟩
        profile := ⟨.sqlite, false, none⟩ }
    options := default }

/-- Both filters are moved alike without a partition and over the teams. -/
theorem promotion_ignores_context_bestOfBest :
    postgres.SharesNames sqliteByTeam ∧
    postgres.promote? bestOfBest = .ok (some bestOfBestMoved) ∧
    (∀ moved, sqliteByTeam.promote? bestOfBest = .ok moved → moved = some bestOfBestMoved) ∧
    bestOfBest.movedCalls.length = 2 ∧
    (∃ windows, sqliteByTeam.computeWindows bestOfBest.movedCalls = .ok windows) ∧
    sqliteByTeam.promote? bestOfBest = .ok (some bestOfBestMoved) := by
  have shared : postgres.SharesNames sqliteByTeam := ⟨rfl, rfl, rfl, rfl⟩
  have here : postgres.promote? bestOfBest = .ok (some bestOfBestMoved) := rfl
  obtain ⟨same, run, -⟩ := promotion_ignores_context postgres sqliteByTeam shared here
  obtain ⟨windows, computed⟩ :
      ∃ windows, sqliteByTeam.computeWindows bestOfBest.movedCalls = .ok windows := ⟨_, rfl⟩
  rw [computed] at run
  exact ⟨shared, here, same, rfl, ⟨windows, computed⟩, run⟩

end Setting

end WindowSql
