import Mathlib.Data.Finset.Card
import Mathlib.Data.Finset.Prod
import Mathlib.Order.Interval.Finset.Nat
import WindowSql.Proofs.TemplateFields
import WindowSql.Proofs.TextFailures

/-!
# The search for a fresh name

Where the search for a name that is not taken ends:

* `firstFree_eq_exhausted_iff`: a search is in vain exactly where all names it tries are taken;
* `card_lt_tries`: counters with texts of their own, each of which stands in a taken name, are fewer
  than the names that are tried;
* `exists_nameCalls`, `promote?_ends`: so calls are named, and no run is without a name, where a
  field of the template tells the counters apart;
* `fresh_names_forever`: which templates have fresh names for ever;
* `nameCalls_exhausted`: under a template of one name only, a second call has none.
-/

namespace WindowSql

theorem firstFree_eq_exhausted_iff {make : Nat → Except TemplateFault String}
    {taken : List String} {tries counter : Nat} :
    firstFree make taken tries counter = .error .exhausted ↔
      ∀ n, counter ≤ n → n < counter + tries → ∃ name ∈ taken, make n = .ok name := by
  induction tries generalizing counter with
  | zero =>
    simp only [firstFree, true_iff]
    omega
  | succ tries ih =>
    have split (P : Nat → Prop) : (∀ n, counter ≤ n → n < counter + (tries + 1) → P n) ↔
        P counter ∧ ∀ n, counter + 1 ≤ n → n < counter + 1 + tries → P n := by
      constructor
      · intro all
        exact ⟨all counter (Nat.le_refl _) (by omega), fun n hn hlt => all n (by omega) (by omega)⟩
      · rintro ⟨first, others⟩ n hn hlt
        rcases Nat.eq_or_lt_of_le hn with rfl | later
        · exact first
        · exact others n later (by omega)
    rw [split, ← ih, firstFree]
    cases made : make counter with
    | error fault => simp
    | ok name =>
      by_cases used : name ∈ taken <;> simp [used]

/-- A search fails for the template only where a counter has no name. -/
theorem firstFree_failsOnly {make : Nat → Except TemplateFault String} {taken : List String}
    {tries counter : Nat} (total : ∀ n ≥ counter, ∃ name, make n = .ok name) :
    FailsOnly (· = .exhausted) (firstFree make taken tries counter) := by
  induction tries generalizing counter with
  | zero => exact .error rfl
  | succ tries ih =>
    obtain ⟨name, named⟩ := total counter (Nat.le_refl _)
    rw [firstFree, named]
    dsimp only
    split
    · exact ih fun n hn => total n (Nat.le_of_succ_le hn)
    · exact .ok _

def infixes (l : List Char) : Finset (List Char) :=
  (Finset.range (l.length + 1) ×ˢ Finset.range (l.length + 1)).image fun p =>
    (l.drop p.1).take p.2

theorem mem_infixes {part l : List Char} (h : part <:+: l) : part ∈ infixes l := by
  obtain ⟨before, after, rfl⟩ := h
  refine Finset.mem_image.mpr ⟨(before.length, part.length), ?_, by simp⟩
  simp only [Finset.mem_product, Finset.mem_range, List.length_append]
  omega

theorem card_infixes_le (l : List Char) :
    (infixes l).card ≤ (l.length + 1) * (l.length + 1) := by
  refine Finset.card_image_le.trans ?_
  simp

/-- Counters that have texts of their own in taken names are fewer than the names that are
tried. -/
theorem card_lt_tries {text : Nat → List Char} {counters : Finset Nat} {taken : List String}
    (distinct : Set.InjOn text counters)
    (held : ∀ n ∈ counters, ∃ name ∈ taken, text n <:+: name.toList) (start : Nat) :
    counters.card < tries start taken := by
  induction taken generalizing counters with
  | nil =>
    have none : counters = ∅ := by
      refine Finset.eq_empty_of_forall_notMem fun n hn => ?_
      obtain ⟨name, mem, -⟩ := held n hn
      cases mem
    simp [none, tries]
  | cons s rest ih =>
    let here := counters.filter fun n => text n ∈ infixes s.toList
    let elsewhere := counters.filter fun n => text n ∉ infixes s.toList
    have all : here.card + elsewhere.card = counters.card :=
      Finset.card_filter_add_card_filter_not _
    have first : here.card ≤ (s.length + 1) * (s.length + 1) := by
      have places : here.card ≤ (infixes s.toList).card :=
        Finset.card_le_card_of_injOn text (fun n hn => (Finset.mem_filter.mp hn).2)
          (distinct.mono (Finset.filter_subset _ _))
      exact places.trans (card_infixes_le s.toList)
    have others : elsewhere.card < tries start rest := by
      refine ih (distinct.mono (Finset.filter_subset _ _)) fun n hn => ?_
      obtain ⟨counted, absent⟩ := Finset.mem_filter.mp hn
      obtain ⟨name, mem, part⟩ := held n counted
      rcases List.mem_cons.mp mem with rfl | mem
      · exact absurd (mem_infixes part) absent
      · exact ⟨name, mem, part⟩
    rw [tries]
    generalize (s.length + 1) * (s.length + 1) = places at first ⊢
    omega

/-- A search ends after enough tries exactly where a counter has a name that is free, or has
none. -/
theorem exists_tries_iff {make : Nat → Except TemplateFault String} {taken : List String}
    {counter : Nat} :
    (∃ tries, firstFree make taken tries counter ≠ .error .exhausted) ↔
      ∃ n ≥ counter, ∀ name, make n = .ok name → name ∉ taken := by
  simp only [ne_eq, firstFree_eq_exhausted_iff]
  push Not
  constructor
  · rintro ⟨tries, n, hn, -, free⟩
    exact ⟨n, hn, fun name named mem => free name mem named⟩
  · rintro ⟨n, hn, free⟩
    exact ⟨n + 1, n, hn, by omega, fun name mem named => free name named mem⟩

section
variable {supply : NameSupply} {o : Options} {objects : Template.Objects} {stem : String}

theorem NameSupply.next_eq_exhausted_iff :
    supply.next o objects stem = .error .exhausted ↔
      ∀ n, supply.counter stem ≤ n →
        n < supply.counter stem + tries (supply.counter stem) supply.taken →
        ∃ name ∈ supply.taken, o.columnName objects stem n = .ok name :=
  map_eq_error.trans firstFree_eq_exhausted_iff

/-- A name that is free is given at once. -/
theorem NameSupply.next_of_free {name : String}
    (named : o.columnName objects stem (supply.counter stem) = .ok name)
    (free : name ∉ supply.taken) :
    supply.next o objects stem =
      .ok (name, ⟨name :: supply.taken, (stem, supply.counter stem) :: supply.counters⟩) := by
  have some : 0 < tries (supply.counter stem) supply.taken := by
    cases supply.taken <;> simp [tries]
  obtain ⟨more, enough⟩ := Nat.exists_eq_succ_of_ne_zero some.ne'
  simp [next, enough, firstFree, named, free, Except.map]

theorem NameSupply.next_ne_exhausted {f : Template.Field} (hf : f ∈ o.fields)
    (distinct : f.Distinct objects stem) : supply.next o objects stem ≠ .error .exhausted := by
  intro failed
  have vain := NameSupply.next_eq_exhausted_iff.mp failed
  generalize supply.counter stem = start at vain
  obtain ⟨text, apart, written⟩ := distinct
  -- the field of every counter that is tried stands in a taken name
  have held : ∀ n ∈ Finset.Ico start (start + tries start supply.taken),
      ∃ name ∈ supply.taken, text n <:+: name.toList := by
    intro n hn
    obtain ⟨after, before⟩ := Finset.mem_Ico.mp hn
    obtain ⟨name, mem, named⟩ := vain n after before
    obtain ⟨part, made, inside⟩ := Options.infix_of_columnName named hf
    obtain rfl : text n = part := Except.ok.inj ((written n).symm.trans made)
    exact ⟨name, mem, inside⟩
  have few := card_lt_tries apart.injOn held start
  simp at few

/-- Where every counter has a name, a fresh one is given. -/
theorem NameSupply.exists_next (supply : NameSupply)
    (formats : ∀ n ≥ supply.counter stem, ∃ name, o.columnName objects stem n = .ok name)
    {f : Template.Field} (hf : f ∈ o.fields) (distinct : f.Distinct objects stem) :
    ∃ named, supply.next o objects stem = .ok named := by
  cases found : supply.next o objects stem with
  | ok named => exact ⟨named, rfl⟩
  | error e =>
    have failed := firstFree_failsOnly formats e (map_eq_error.mp found)
    rw [failed] at found
    exact absurd found (NameSupply.next_ne_exhausted hf distinct)

end

namespace Setting
variable {s : Setting}
  (apart : ∀ f ∈ s.catalog.functions, ∃ field ∈ s.options.fields, field.Distinct s.objects f.stem)

include apart

theorem nameCalls_ends (supply : NameSupply) (calls : List Call) :
    FailsOnly (· ≠ .naming .exhausted) (s.nameCalls supply calls) := by
  induction calls generalizing supply with
  | nil => exact .ok _
  | cons c rest ih =>
    rw [nameCalls]
    refine (FailsOnly.lift fun f _ => by simp).bind fun f known => ?_
    obtain ⟨field, hf, distinct⟩ := apart f (Catalog.mem_of_get (lift_eq_ok.mp known))
    refine FailsOnly.bind (.mapError fun e failed => ?_) fun named _ => ?_
    · rintro ⟨⟩
      exact NameSupply.next_ne_exhausted hf distinct failed
    · exact (ih named.2).bind fun names _ => .ok _

/-- Calls of functions that are known are named where every counter of their stems has a name. -/
theorem exists_nameCalls_of_formats (supply : NameSupply) {calls : List Call}
    (known : ∀ c ∈ calls, ∃ f, s.catalog.get c.func = .ok f ∧
      ∀ n : Nat, 0 < n → ∃ name, s.options.columnName s.objects f.stem n = .ok name) :
    ∃ names, s.nameCalls supply calls = .ok names := by
  induction calls generalizing supply with
  | nil => exact ⟨[], rfl⟩
  | cons c rest ih =>
    obtain ⟨⟨f, found, formats⟩, others⟩ := List.forall_mem_cons.mp known
    obtain ⟨field, hf, distinct⟩ := apart f (Catalog.mem_of_get found)
    have counts (n : Nat) (hn : n ≥ supply.counter f.stem) :
        ∃ name, s.options.columnName s.objects f.stem n = .ok name :=
      formats n (Nat.lt_of_lt_of_le (Nat.succ_pos _) hn)
    obtain ⟨named, first⟩ := supply.exists_next counts hf distinct
    obtain ⟨names, later⟩ := ih named.2 others
    refine ⟨(c, named.1) :: names, ?_⟩
    simp only [nameCalls, found, lift_ok, ok_bind, mapError_eq_ok.mpr first, later, pure_eq_ok]

theorem exists_nameCalls
    (formats : ∀ stem (n : Nat), ∃ name, s.options.columnName s.objects stem n = .ok name)
    (supply : NameSupply) {calls : List Call}
    (known : ∀ c ∈ calls, ∃ f, s.catalog.get c.func = .ok f) :
    ∃ names, s.nameCalls supply calls = .ok names :=
  exists_nameCalls_of_formats apart supply fun c hc =>
    (known c hc).imp fun f found => ⟨found, fun n _ => formats f.stem n⟩

theorem split_ends (stmt : Statement) :
    FailsOnly (· ≠ .naming .exhausted) (s.split stmt) := by
  refine split_failsOnly_of_windows (fun f _ => by simp) (nameCalls_ends apart _ _) (fun p _ => ?_)
    fun _ _ _ _ => nofun
  refine (s.windowColumn_failsOnlyOfText p.2 p.1).imp ?_
  rintro _ text rfl
  exact text

theorem promote?_ends (stmt : Statement) :
    FailsOnly (· ≠ .naming .exhausted) (s.promote? stmt) :=
  promote?_failsOnly_of_split (I := fun _ => True) (fun _ => trivial) (fun _ _ => trivial)
    (fun _ => split_ends apart _) trivial

end Setting

/-- **Fresh names for ever.** Where the template makes a name of every counter of a stem, one of
them is free from any counter on, whatever is taken, exactly where the texts of one of its fields
get longer and longer; and exactly there every search ends after enough tries. Where a field tells
apart the counters of every function, the tries that are made are enough: known calls are named, if
every counter has a name, and no run over a statement is without a name. -/
theorem Setting.fresh_names_forever (s : Setting) :
    (∀ stem, (∀ n : Nat, ∃ name, s.options.columnName s.objects stem n = .ok name) →
      ((∀ (taken : List String) (start : Nat),
          ∃ n ≥ start, ∃ name, s.options.columnName s.objects stem n = .ok name ∧ name ∉ taken) ↔
        ∃ field ∈ s.options.fields, field.Grows s.objects stem) ∧
      ((∀ (taken : List String) (start : Nat), ∃ tries,
          firstFree (fun n => s.options.columnName s.objects stem n) taken tries start ≠
            .error .exhausted) ↔
        ∃ field ∈ s.options.fields, field.Grows s.objects stem)) ∧
    ((∀ f ∈ s.catalog.functions, ∃ field ∈ s.options.fields, field.Distinct s.objects f.stem) →
      ((∀ stem (n : Nat), ∃ name, s.options.columnName s.objects stem n = .ok name) →
        ∀ supply calls, (∀ c ∈ calls, ∃ f, s.catalog.get c.func = .ok f) →
          ∃ names, s.nameCalls supply calls = .ok names) ∧
      ∀ stmt, s.promote? stmt ≠ .error (.naming .exhausted)) := by
  refine ⟨fun stem formats => ?_, fun apart => ?_⟩
  · have free := Options.exists_free_iff formats
    refine ⟨free, ?_⟩
    rw [← free]
    refine forall_congr' fun taken => forall_congr' fun start => ?_
    rw [exists_tries_iff]
    refine exists_congr fun n => and_congr_right fun _ => ?_
    obtain ⟨name, named⟩ := formats n
    simp [named]
  · exact ⟨fun formats supply calls known => exists_nameCalls apart formats supply known,
      fun stmt failed => promote?_ends apart stmt _ failed rfl⟩

namespace Setting
variable {s : Setting}

/-- Under a template that makes one name only, the second call has none. -/
theorem nameCalls_exhausted {supply : NameSupply} {c c' : Call} {rest : List Call}
    {f f' : WindowFunction} {name : String} (known : s.catalog.get c.func = .ok f)
    (known' : s.catalog.get c'.func = .ok f')
    (constant : ∀ stem (n : Nat), s.options.columnName s.objects stem n = .ok name)
    (free : name ∉ supply.taken) :
    s.nameCalls supply (c :: c' :: rest) = .error (.naming .exhausted) := by
  have first := NameSupply.next_of_free (constant f.stem (supply.counter f.stem)) free
  have second : NameSupply.next
      ⟨name :: supply.taken, (f.stem, supply.counter f.stem) :: supply.counters⟩ s.options
        s.objects f'.stem = .error .exhausted :=
    NameSupply.next_eq_exhausted_iff.mpr fun n _ _ =>
      ⟨name, List.mem_cons_self, constant f'.stem n⟩
  simp only [nameCalls, known, known', lift_ok, ok_bind, first, second, Except.mapError,
    error_bind]

theorem promote?_select_eq_error {b : Block} {e : Failure} (filters : b.filtersOnWindow = true)
    (unnested : (b.windowCalls.forM fun p => p.1.checkNested) = .ok ())
    (names : s.nameCalls ⟨b.usedNames ++ (Statement.select b).sourceNames, []⟩
      (b.distinctCalls.map (·.1)) = .error e) :
    s.promote? (.select b) = .error e := by
  have promoted : s.promotedNames (.select b) = .error e := by
    simp only [promotedNames, Statement.block, unnested, lift_ok, ok_bind, names, error_bind]
  rw [promote?, if_pos filters, split, promoted]
  rfl

end Setting

theorem Options.counter_mem_fields_default : .counter ∈ (default : Options).fields := by
  have segments : (default : Options).segments =
      [.field ⟨"stem".toList, none, [], false⟩, .char '_', .field .counter] := rfl
  refine counter_mem_fields (by decide) (by simp [segments]) ?_
  intro f hf
  rw [mem_fields, segments] at hf
  simp only [List.mem_cons, Template.Segment.field.injEq, reduceCtorEq, List.not_mem_nil,
    or_false, false_or] at hf
  rcases hf with rfl | rfl <;> exact ⟨by decide, by decide, rfl⟩

/-- The default template has the counter in a field, so it never runs out of names. -/
theorem fresh_names_forever_default :
    (∀ stem (n : Nat), ∃ name,
      Setting.postgres.options.columnName Setting.postgres.objects stem n = .ok name) ∧
    (∀ f ∈ Setting.postgres.catalog.functions, ∃ field ∈ Setting.postgres.options.fields,
      field.Distinct Setting.postgres.objects f.stem) ∧
    (∀ c ∈ [(⟨"rank", [], none⟩ : Call), ⟨"rank", [.column "G"], none⟩],
      ∃ f, Setting.postgres.catalog.get c.func = .ok f) ∧
    (∀ (taken : List String) (start : Nat), ∃ n ≥ start, ∃ name,
      Setting.postgres.options.columnName Setting.postgres.objects "rank" n = .ok name ∧
        name ∉ taken) ∧
    (∃ names, Setting.postgres.nameCalls ⟨["rank_1"], []⟩
      [⟨"rank", [], none⟩, ⟨"rank", [.column "G"], none⟩] = .ok names) ∧
    ∀ stmt, Setting.postgres.promote? stmt ≠ .error (.naming .exhausted) := by
  have formats (stem : String) (n : Nat) : ∃ name,
      Setting.postgres.options.columnName Setting.postgres.objects stem n = .ok name := ⟨_, rfl⟩
  have apart : ∀ f ∈ Setting.postgres.catalog.functions, ∃ field ∈ Setting.postgres.options.fields,
      field.Distinct Setting.postgres.objects f.stem := fun f _ =>
    ⟨_, Options.counter_mem_fields_default, Template.Field.counter_distinct _ f.stem⟩
  have known : ∀ c ∈ [(⟨"rank", [], none⟩ : Call), ⟨"rank", [.column "G"], none⟩],
      ∃ f, Setting.postgres.catalog.get c.func = .ok f := by
    simp only [List.forall_mem_cons, List.not_mem_nil, false_implies, implies_true, and_true]
    exact ⟨⟨_, rfl⟩, ⟨_, rfl⟩⟩
  obtain ⟨free, runs⟩ := Setting.postgres.fresh_names_forever
  obtain ⟨named, moved⟩ := runs apart
  exact ⟨formats, apart, known,
    (free "rank" (formats "rank")).1.mpr
      ⟨_, Options.counter_mem_fields_default, Template.Field.counter_grows _ "rank"⟩,
    named formats _ _ known, moved⟩

theorem Options.tmp_nonempty : "tmp".isEmpty = false := by decide

theorem escapedCounter_counts : hasPart counterField "\x7b\x7bn\x7d\x7d".toList = true := by decide

/-- A template with the counter in doubled braces. -/
def escapedCounter : Options :=
  ⟨"tmp", "\x7b\x7bn\x7d\x7d", Options.tmp_nonempty, escapedCounter_counts⟩

/-- The years of a player that rank no lower by games than by at-bats. -/
def twoRanks : Statement :=
  .select
    { table := some "batting"
      predicate := some (.binary .le (minRank "G") (minRank "AB"))
      isFilter := true }

/-- The options are accepted, but all names are the same: no number of tries gives a second one, and
a filter on two ranks cannot be moved. -/
theorem escapedCounter_runs_out :
    Options.make "tmp" "\x7b\x7bn\x7d\x7d" = .ok escapedCounter ∧
    (∀ stem (n : Nat), escapedCounter.columnName {} stem n = .ok "\x7bn\x7d") ∧
    (∀ tries, firstFree (fun n => escapedCounter.columnName {} "rank" n) ["\x7bn\x7d"] tries 1 =
      .error .exhausted) ∧
    { Setting.postgres with options := escapedCounter }.promote? twoRanks =
      .error (.naming .exhausted) := by
  have constant (stem : String) (n : Nat) :
      escapedCounter.columnName {} stem n = .ok "\x7bn\x7d" := rfl
  have vain (tries : Nat) : firstFree (fun n => escapedCounter.columnName {} "rank" n)
      ["\x7bn\x7d"] tries 1 = .error .exhausted :=
    firstFree_eq_exhausted_iff.mpr fun n _ _ => ⟨_, List.mem_singleton_self _, constant "rank" n⟩
  refine ⟨rfl, constant, vain, Setting.promote?_select_eq_error rfl rfl ?_⟩
  exact Setting.nameCalls_exhausted rfl rfl constant (by decide)

end WindowSql
