import WindowSql.Context
import WindowSql.Dialect.Registry
import WindowSql.Fault
import WindowSql.Function.Catalog

/-!
What a statement is compiled with: a dialect, a context, a catalog of functions, and options; and
what the machine brings along: the limits of texts, and what is known of the parts of values.
-/

namespace WindowSql

structure Setting where
  dialect : Dialect
  context : Context := {}
  catalog : Catalog := {}
  options : Options := {}
  limits : Limits := default
  objects : Template.Objects := {}

/-- The function of a name; a name that is not known is a fault. -/
def Catalog.get (c : Catalog) (name : String) : Except Fault WindowFunction :=
  match c.find? name with
  | some f => .ok f
  | none => .error (.unknownFunction name c.names)

/-- The dialect that a name is bound to. -/
def Registry.get (r : Registry) (name : String) : Except Fault Dialect :=
  match r.find? name with
  | some d => .ok d
  | none => .error (.unknownDialect name r.targets)

/-- The setting for a context, in the dialect its profile aims at. -/
def Setting.ofRegistry (r : Registry) (context : Context) (catalog : Catalog) (options : Options)
    (limits : Limits) (objects : Template.Objects) : Except Fault Setting :=
  (r.get context.profile.target.name).map fun d =>
    ⟨d, context, catalog, options, limits, objects⟩

end WindowSql
