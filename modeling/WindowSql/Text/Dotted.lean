/-!
Dotted names. A qualified column is split at its last dot, `qualifier.column`; a reference is
written out by its first dot, `relation.rest`.
-/

namespace WindowSql.Text

/-- What stands before and after the first dot. -/
def splitFirstDot? : List Char → Option (List Char × List Char)
  | [] => none
  | c :: rest =>
    if c = '.' then some ([], rest)
    else (splitFirstDot? rest).map fun (before, after) => (c :: before, after)

/-- What stands before and after the last dot. -/
def splitLastDot? : List Char → Option (List Char × List Char)
  | [] => none
  | c :: rest =>
    match splitLastDot? rest with
    | some (before, after) => some (c :: before, after)
    | none => if c = '.' then some ([], rest) else none

/-- The qualifier of a column name, empty if there is none, and the column itself. -/
structure Qualified where
  qualifier : String
  column : String
  deriving DecidableEq, Repr

def qualified (name : String) : Qualified :=
  match splitLastDot? name.toList with
  | some (before, after) => ⟨String.ofList before, String.ofList after⟩
  | none => ⟨"", name⟩

end WindowSql.Text
