import WindowSql.Dialect

/-!
The table of dialects by name. A name is bound to one dialect; binding it again replaces that one.
-/

namespace WindowSql

structure Registry where
  entries : List (String × Dialect)
  deriving DecidableEq, Repr

namespace Registry

def builtin : Registry := ⟨Target.all.map fun t => (t.name, t.dialect)⟩

/-- Binds a name, in place of any earlier binding. -/
def register (r : Registry) (name : String) (d : Dialect) : Registry :=
  ⟨(name, d) :: r.entries.filter (·.1 != name)⟩

def find? (r : Registry) (name : String) : Option Dialect := r.entries.lookup name

/-- The names that are bound, in the order of their code points. -/
def targets (r : Registry) : List String :=
  (r.entries.map (·.1)).mergeSort fun a b => decide (a ≤ b)

end Registry

end WindowSql
