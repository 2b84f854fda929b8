/-!
Taking a list for a pair: it has to have two entries.
-/

namespace WindowSql

/-- A list that was taken for a pair and has another number of entries. -/
structure PairFault where
  count : Nat
  deriving DecidableEq, Repr

def PairFault.message (f : PairFault) : String :=
  if f.count < 2 then
    "not enough values to unpack (expected 2, got " ++ toString f.count ++ ")"
  else "too many values to unpack (expected 2)"

def asPair {α : Type} : List α → Except PairFault (α × α)
  | [a, b] => .ok (a, b)
  | entries => .error ⟨entries.length⟩

end WindowSql
