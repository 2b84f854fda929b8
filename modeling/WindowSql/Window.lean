import WindowSql.Expr

/-!
Windows: the partition, the ordering and the frame of a window function.
-/

namespace WindowSql

inductive BoundKind where
  | unboundedPreceding | preceding | currentRow | following | unboundedFollowing
  deriving DecidableEq, Repr, Inhabited

def BoundKind.name : BoundKind → String
  | unboundedPreceding => "UNBOUNDED_PRECEDING"
  | preceding => "PRECEDING"
  | currentRow => "CURRENT_ROW"
  | following => "FOLLOWING"
  | unboundedFollowing => "UNBOUNDED_FOLLOWING"

def BoundKind.all : List BoundKind :=
  [unboundedPreceding, preceding, currentRow, following, unboundedFollowing]

def BoundKind.ofName? (s : String) : Option BoundKind := all.find? (·.name == s)

/-- One end of a frame. The offset counts rows and means something only for `preceding` and
`following`. -/
structure FrameBound where
  kind : BoundKind
  offset : Option Int := none
  deriving DecidableEq, Repr, Inhabited

structure Frame where
  start : FrameBound
  stop : FrameBound
  deriving DecidableEq, Repr, Inhabited

namespace Frame

/-- The whole partition. -/
def partition : Frame := ⟨⟨.unboundedPreceding, none⟩, ⟨.unboundedFollowing, none⟩⟩

/-- From the start of the partition to the current row. -/
def running : Frame := ⟨⟨.unboundedPreceding, none⟩, ⟨.currentRow, none⟩⟩

/-- So many rows before the current one to so many after it. -/
def around (before after : Int) : Frame := ⟨⟨.preceding, some before⟩, ⟨.following, some after⟩⟩

end Frame

structure Window where
  partitionBy : List String := []
  orderBy : List OrderKey := []
  frame : Option Frame := none
  deriving Repr, Inhabited

/-- The text of a bound in a frame clause. -/
def FrameBound.sql (l : Limits) (b : FrameBound) : Except LongInteger String :=
  let rows := match b.offset with
    | some n => l.text n
    | none => .ok "None"
  match b.kind with
  | .unboundedPreceding => .ok "UNBOUNDED PRECEDING"
  | .unboundedFollowing => .ok "UNBOUNDED FOLLOWING"
  | .currentRow => .ok "CURRENT ROW"
  | .preceding => rows.map (· ++ " PRECEDING")
  | .following => rows.map (· ++ " FOLLOWING")

end WindowSql
