import WindowSql.Proofs.Outcomes
import WindowSql.Proofs.Sameness
import WindowSql.Statement.Promotion

/-!
# Fresh names for window calls

A run of the name supply gives every call one name:

* `firstFree_eq_ok`: a name that is found is made by the template and is not taken;
* `nameCalls_eq_ok`: the names of a run are those of its calls in order, differ from each other and
  from all that were taken before.
-/

namespace WindowSql

theorem firstFree_eq_ok {make : Nat → Except TemplateFault String} {taken : List String}
    {tries counter n : Nat} {name : String}
    (h : firstFree make taken tries counter = .ok (name, n)) :
    make n = .ok name ∧ name ∉ taken := by
  induction tries generalizing counter with
  | zero => cases h
  | succ tries ih =>
    rw [firstFree] at h
    cases made : make counter with
    | error fault => simp [made] at h
    | ok s =>
      simp only [made] at h
      split at h
      · exact ih h
      · rename_i free
        cases h
        exact ⟨made, free⟩

theorem NameSupply.next_eq_ok {supply after : NameSupply} {o : Options}
    {objects : Template.Objects} {stem name : String}
    (h : supply.next o objects stem = .ok (name, after)) :
    name ∉ supply.taken ∧ after.taken = name :: supply.taken := by
  obtain ⟨⟨s, n⟩, found, made⟩ := map_eq_ok.mp h
  cases made
  exact ⟨(firstFree_eq_ok found).2, rfl⟩

namespace Setting

/-- The names that calls are given in one run, where some are taken. -/
structure NamesFor (calls : List Call) (taken : List String) (names : List (Call × String)) :
    Prop where
  keys : names.map Prod.fst = calls
  nodup : (names.map Prod.snd).Nodup
  fresh : ∀ name ∈ names.map Prod.snd, name ∉ taken

theorem nameCalls_eq_ok {s : Setting} {supply : NameSupply} {calls : List Call}
    {names : List (Call × String)} (h : s.nameCalls supply calls = .ok names) :
    NamesFor calls supply.taken names := by
  induction calls generalizing supply names with
  | nil =>
    cases h
    exact ⟨rfl, List.nodup_nil, nofun⟩
  | cons c rest ih =>
    simp only [nameCalls, bind_eq_ok, lift_eq_ok, mapError_eq_ok, pure_eq_ok,
      Except.ok.injEq] at h
    obtain ⟨f, -, ⟨name, after⟩, given, later, run, rfl⟩ := h
    obtain ⟨free, taken⟩ := NameSupply.next_eq_ok given
    obtain ⟨keys, nodup, fresh⟩ := ih run
    rw [taken] at fresh
    refine ⟨by simp [keys], ?_, ?_⟩
    · refine List.nodup_cons.mpr ⟨fun again => ?_, nodup⟩
      exact fresh name again List.mem_cons_self
    · intro n hn
      rcases List.mem_cons.mp hn with rfl | hn
      · exact free
      · exact fun old => fresh n hn (List.mem_cons_of_mem _ old)

end Setting

end WindowSql
