import WindowSql.Naming.Options

/-!
Fresh names for window columns.

Every stem has a counter of its own. A name that is taken is passed over and the counter goes on; a
name that is given is taken from then on. A template that writes its counter out makes few names
twice, and one that rounds it to a digit makes one name of a run of counters that is shorter than
the counter it begins at; the search for a fresh name needs no more tries than `tries` allows.
-/

namespace WindowSql

inductive NamingFault where
  | template (fault : TemplateFault)
  /-- The template makes nothing but names that are taken. -/
  | exhausted
  deriving DecidableEq, Repr

/-- The first name that is not taken, with its counter, from a counter on. -/
def firstFree (name : Nat → Except TemplateFault String) (taken : List String) :
    (tries counter : Nat) → Except NamingFault (String × Nat)
  | 0, _ => .error .exhausted
  | tries + 1, counter =>
    match name counter with
    | .error fault => .error (.template fault)
    | .ok s => if s ∈ taken then firstFree name taken tries (counter + 1) else .ok (s, counter)

/-- How many names are tried from a counter on: the counter may grow tenfold with every taken name
that is passed over, and be any part of one. -/
def tries (counter : Nat) : List String → Nat
  | [] => counter + 1
  | s :: rest => 10 * (tries counter rest + (s.length + 1) * (s.length + 1))

/-- The names that are taken, and the last counter of each stem. -/
structure NameSupply where
  taken : List String
  counters : List (String × Nat) := []
  deriving DecidableEq, Repr

namespace NameSupply

/-- The next counter of a stem. -/
def counter (s : NameSupply) (stem : String) : Nat := (s.counters.lookup stem).getD 0 + 1

/-- A fresh name for a stem. -/
def next (s : NameSupply) (o : Options) (objects : Template.Objects) (stem : String) :
    Except NamingFault (String × NameSupply) :=
  let start := s.counter stem
  (firstFree (fun n => o.columnName objects stem n) s.taken (tries start s.taken) start).map
    fun (name, n) => (name, ⟨name :: s.taken, (stem, n) :: s.counters⟩)

end NameSupply

end WindowSql
