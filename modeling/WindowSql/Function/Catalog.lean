import WindowSql.Function
import WindowSql.Text.Blank

/-!
The catalog of window functions that a statement may call: the built-in ones and any number of
further ones. Of two functions of one name the later one counts. A name is looked up without the
blanks around it and in lower case.
-/

namespace WindowSql

structure Catalog where
  /-- The functions known besides the built-in ones. -/
  extra : List WindowFunction := []
  deriving DecidableEq, Repr, Inhabited

namespace Catalog

def functions (c : Catalog) : List WindowFunction := WindowFunction.builtin ++ c.extra

def extend (c : Catalog) (more : List WindowFunction) : Catalog := ⟨c.extra ++ more⟩

/-- The form of a name that is looked up. -/
def key (name : String) : String := Text.lower (Text.strip name)

def find? (c : Catalog) (name : String) : Option WindowFunction :=
  c.functions.reverse.find? (·.name == key name)

def contains (c : Catalog) (name : String) : Bool := (c.find? name).isSome

/-- The names of all functions, each once, in the order of their code points. -/
def names (c : Catalog) : List String :=
  (c.functions.map (·.name)).eraseDups.mergeSort fun a b => decide (a ≤ b)

end Catalog

end WindowSql
