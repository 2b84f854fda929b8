import WindowSql.Document
import WindowSql.Proofs.Compilation
import WindowSql.Proofs.StatementDocuments
import WindowSql.Schema.Profile

/-!
# Dialects by name

Any name can be bound to a dialect. What a statement is compiled with is the dialect that the target
of its profile is bound to:

* `find?_register`, `find?_registerAll`: one binding, and a run of them, whose last one for a name
  counts;
* `mem_targets_registerAll`: the names that are bound after a run;
* `profile_eq_ok_iff`: the names that a profile can aim at, which are those of the targets whatever
  is bound;
* `registered_dialects`: what a run of bindings does to the dialect of a name and to compilations.
-/

namespace WindowSql

namespace Registry

theorem lookup_filter_ne (entries : List (String × Dialect)) (name m : String) :
    (entries.filter (·.1 != name)).lookup m = if m = name then none else entries.lookup m := by
  induction entries with
  | nil => simp
  | cons entry rest ih =>
    obtain ⟨bound, d⟩ := entry
    by_cases replaced : bound = name
    · rw [List.filter_cons_of_neg (by simpa using replaced), ih]
      by_cases asked : m = name
      · simp [asked]
      · have other : (m == bound) = false := by
          rw [beq_eq_false_iff_ne, replaced]
          exact asked
        rw [List.lookup_cons, other]
    · rw [List.filter_cons_of_pos (by simpa using replaced), List.lookup_cons, List.lookup_cons, ih]
      by_cases here : m = bound
      · simp [here, replaced]
      · have other : (m == bound) = false := beq_eq_false_iff_ne.mpr here
        simp [other]

/-- A binding replaces that of its name and leaves the others. -/
theorem find?_register (r : Registry) (name m : String) (d : Dialect) :
    (r.register name d).find? m = if m = name then some d else r.find? m := by
  rw [find?, register, List.lookup_cons, lookup_filter_ne]
  by_cases asked : m = name
  · simp [asked]
  · have other : (m == name) = false := beq_eq_false_iff_ne.mpr asked
    simp [other, asked, find?]

def registerAll (r : Registry) (run : List (String × Dialect)) : Registry :=
  run.foldl (fun r binding => r.register binding.1 binding.2) r

/-- After a run a name is bound to what the last binding of it says. -/
theorem find?_registerAll (r : Registry) (run : List (String × Dialect)) (name : String) :
    (r.registerAll run).find? name = (run.reverse.lookup name).or (r.find? name) := by
  induction run generalizing r with
  | nil => rfl
  | cons binding rest ih =>
    obtain ⟨bound, d⟩ := binding
    have step : (r.registerAll ((bound, d) :: rest)).find? name =
        (rest.reverse.lookup name).or ((r.register bound d).find? name) := ih (r.register bound d)
    rw [step, find?_register, List.reverse_cons, List.lookup_append, Option.or_assoc,
      List.lookup_cons]
    by_cases here : name = bound
    · rw [if_pos here, beq_iff_eq.mpr here]
      rfl
    · rw [if_neg here, beq_eq_false_iff_ne.mpr here]
      rfl

theorem mem_targets {r : Registry} {name : String} :
    name ∈ r.targets ↔ (r.find? name).isSome = true := by
  rw [targets, List.mem_mergeSort, find?, List.lookup_isSome_iff, List.mem_map]
  refine exists_congr fun entry => and_congr_right fun _ => ?_
  rw [beq_iff_eq, eq_comm]

/-- No name is bound twice. -/
def Functional (r : Registry) : Prop := (r.entries.map Prod.fst).Nodup

theorem functional_builtin : builtin.Functional := by
  unfold Functional
  decide

theorem Functional.register {r : Registry} (h : r.Functional) (name : String) (d : Dialect) :
    (r.register name d).Functional := by
  have others : ((r.entries.filter (·.1 != name)).map Prod.fst).Nodup :=
    h.sublist (List.filter_sublist.map Prod.fst)
  refine List.nodup_cons.mpr ⟨?_, others⟩
  simp

theorem Functional.registerAll {r : Registry} (h : r.Functional)
    (run : List (String × Dialect)) : (r.registerAll run).Functional := by
  induction run generalizing r with
  | nil => exact h
  | cons binding rest ih => exact ih (h.register binding.1 binding.2)

theorem Functional.nodup_targets {r : Registry} (h : r.Functional) : r.targets.Nodup :=
  (List.mergeSort_perm _ _).nodup_iff.mpr h

end Registry

namespace Target

theorem ofName?_eq_some {name : String} {t : Target} : ofName? name = some t ↔ t.name = name := by
  constructor
  · intro found
    simpa using List.find?_some found
  · rintro rfl
    cases t <;> decide

/-- At first the names of the targets are bound, to their dialects. -/
theorem find?_builtin (name : String) :
    Registry.builtin.find? name = (ofName? name).map dialect := by
  have among (targets : List Target) :
      (targets.map fun t => (t.name, t.dialect)).lookup name =
        (targets.find? (·.name == name)).map dialect := by
    induction targets with
    | nil => rfl
    | cons t rest ih =>
      rw [List.map_cons, List.lookup_cons, List.find?_cons, BEq.comm, ih]
      cases t.name == name <;> rfl
  exact among all

end Target

namespace Schema

theorem target_eq_ok {name : String} {t : Target} :
    target (.str name) = .ok t ↔ t.name = name := by
  rw [← Target.ofName?_eq_some, target, oneOf]
  cases Target.ofName? name <;> simp [Decoded.fail]

def profileDocument (name : String) (frames : Bool) (limit : Option Int) : Json :=
  .obj [("target", .str name), ("frames", .bool frames),
    ("max_frame_offset", Json.ofOption .int limit)]

/-- A profile aims at a target, and at no other name. -/
theorem profile_eq_ok_iff {name : String} {frames : Bool} {limit : Option Int} {p : Profile} :
    profile (profileDocument name frames limit) = .ok p ↔
      p.target.name = name ∧ p.frames = frames ∧ p.maxFrameOffset = limit := by
  have limited : nullable integer (Json.ofOption .int limit) = .ok limit := by
    cases limit <;> rfl
  have known : onlyFields ["target", "frames", "max_frame_offset"]
      [("target", .str name), ("frames", .bool frames),
        ("max_frame_offset", Json.ofOption .int limit)] = .ok () := rfl
  rw [profileDocument, profile, andThen_eq_ok, optional_ok rfl limited,
    optional_ok rfl (truth_bool frames)]
  simp only [known, and_true, app_eq_ok]
  constructor
  · rintro ⟨_, ⟨_, ⟨_, ⟨⟩, t, aimed, rfl⟩, _, ⟨⟩, rfl⟩, _, ⟨⟩, rfl⟩
    exact ⟨target_eq_ok.mp (within_eq_ok.mp aimed), rfl, rfl⟩
  · rintro ⟨aimed, rfl, rfl⟩
    have read : optional [("target", .str name), ("frames", .bool p.frames),
        ("max_frame_offset", Json.ofOption .int p.maxFrameOffset)] "target" .postgres target =
          .ok p.target := optional_ok rfl (target_eq_ok.mpr aimed)
    rw [read]
    exact ⟨_, ⟨_, ⟨_, rfl, _, rfl, rfl⟩, _, rfl, rfl⟩, _, rfl, rfl⟩

end Schema

namespace Registry

/-- What a name is bound to after a run: by the last binding of it, or as a target. -/
def bound? (run : List (String × Dialect)) (name : String) : Option Dialect :=
  (run.reverse.lookup name).or ((Target.ofName? name).map Target.dialect)

theorem get_registerAll (run : List (String × Dialect)) (name : String) :
    (builtin.registerAll run).get name =
      match bound? run name with
      | some d => .ok d
      | none => .error (.unknownDialect name (builtin.registerAll run).targets) := by
  rw [get, find?_registerAll, Target.find?_builtin]
  rfl

theorem mem_targets_registerAll {run : List (String × Dialect)} {name : String} :
    name ∈ (builtin.registerAll run).targets ↔
      name ∈ run.map Prod.fst ∨ ∃ t : Target, t.name = name := by
  rw [mem_targets, find?_registerAll, Target.find?_builtin, Option.isSome_or, Bool.or_eq_true,
    List.lookup_isSome_iff, Option.isSome_map, Option.isSome_iff_exists]
  simp only [Target.ofName?_eq_some, List.mem_reverse, beq_iff_eq, List.mem_map, @eq_comm _ name]

end Registry

theorem Setting.ofRegistry_eq_ok {r : Registry} {context : Context} {d : Dialect}
    (bound : r.get context.profile.target.name = .ok d) (catalog : Catalog) (options : Options)
    (limits : Limits) (objects : Template.Objects) :
    ofRegistry r context catalog options limits objects =
      .ok ⟨d, context, catalog, options, limits, objects⟩ := by
  rw [ofRegistry, bound]
  rfl

/-- A document that is compiled is written in the dialect of the setting. -/
theorem Setting.dialect_of_compileDocument {s : Setting} {document : Json} {c : Compiled}
    (h : s.compileDocument document = .ok c) :
    c.dialect = s.dialect.name ∧ s.statementText c.statement = .ok c.sql := by
  unfold compileDocument compileRead at h
  split at h
  · cases h
  · obtain ⟨-, -, moved, -, -, sql, text, rfl⟩ := compile_eq_ok.mp (mapError_eq_ok.mp h)
    exact ⟨rfl, text⟩

namespace Registry

/-- **Names of dialects.** After any run of bindings, of the names of targets and of others, every
name stands for the dialect it was bound to last; the names listed as known are, once each, those of
the run and those of the targets. A profile aims at the name of a target, whatever was bound. And in
every context with such a profile there is a dialect, with which documents are compiled: the one
that the name of the target was bound to last, or the target's own. -/
theorem registered_dialects (run : List (String × Dialect)) :
    (∀ name, (builtin.registerAll run).get name =
      match bound? run name with
      | some d => .ok d
      | none => .error (.unknownDialect name (builtin.registerAll run).targets)) ∧
    (builtin.registerAll run).targets.Nodup ∧
    (∀ name, name ∈ (builtin.registerAll run).targets ↔
      name ∈ run.map Prod.fst ∨ ∃ t : Target, t.name = name) ∧
    (∀ name frames limit p, Schema.profile (Schema.profileDocument name frames limit) = .ok p ↔
      p.target.name = name ∧ p.frames = frames ∧ p.maxFrameOffset = limit) ∧
    ∀ context catalog options limits objects,
      ∃ d, bound? run context.profile.target.name = some d ∧
      Setting.ofRegistry (builtin.registerAll run) context catalog options limits objects =
        .ok ⟨d, context, catalog, options, limits, objects⟩ ∧
      ∀ document c,
        (⟨d, context, catalog, options, limits, objects⟩ : Setting).compileDocument document =
          .ok c →
        c.dialect = d.name ∧
        (⟨d, context, catalog, options, limits, objects⟩ : Setting).statementText c.statement =
          .ok c.sql := by
  have once : (builtin.registerAll run).targets.Nodup :=
    (functional_builtin.registerAll run).nodup_targets
  refine ⟨get_registerAll run, once, fun _ => mem_targets_registerAll,
    fun _ _ _ _ => Schema.profile_eq_ok_iff, ?_⟩
  intro context catalog options limits objects
  have target : Target.ofName? context.profile.target.name = some context.profile.target :=
    Target.ofName?_eq_some.mpr rfl
  -- a target has a dialect of its own, so its name is bound whether or not it is in the run
  obtain ⟨d, bound⟩ : ∃ d, bound? run context.profile.target.name = some d := by
    rw [bound?, target]
    cases run.reverse.lookup context.profile.target.name with
    | some d => exact ⟨d, rfl⟩
    | none => exact ⟨_, rfl⟩
  have given : (builtin.registerAll run).get context.profile.target.name = .ok d := by
    rw [get_registerAll, bound]
  exact ⟨d, bound, Setting.ofRegistry_eq_ok given catalog options limits objects,
    fun document c compiled => Setting.dialect_of_compileDocument compiled⟩

/-- A name besides those of the targets is bound to a dialect like any other, but no profile aims at
it: the document of one is refused, and so no context leads to the dialect. -/
theorem registered_dialect_unreachable :
    (builtin.registerAll [("trino", .mysql)]).get "trino" = .ok .mysql ∧
    Schema.profile (.obj [("target", .str "trino")]) =
      .error [⟨[.field "target"], .notLiteral ["postgres", "sqlite", "mysql", "duckdb"]⟩] ∧
    ∀ context : Context, context.profile.target.name ≠ "trino" := by
  refine ⟨rfl, rfl, fun context => ?_⟩
  cases context.profile.target <;> decide

end Registry

end WindowSql
