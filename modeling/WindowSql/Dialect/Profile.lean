import WindowSql.Dialect
import WindowSql.Fault.Config

/-!
Dialect profiles: the engine a statement is compiled for and the window frames it supports.

`ProfileDraft` collects settings; `ProfileDraft.check` refuses those that contradict each other.
-/

namespace WindowSql

structure Profile where
  target : Target := .postgres
  /-- Frame clauses are supported. -/
  frames : Bool := true
  /-- The largest row offset in a frame, if there is a limit. -/
  maxFrameOffset : Option Int := none
  deriving DecidableEq, Repr, Inhabited

/-- Settings of a profile that are not checked yet. -/
structure ProfileDraft where
  frames : Bool := true
  maxFrameOffset : Option Int := none
  deriving DecidableEq, Repr, Inhabited

namespace ProfileDraft

def withMaxFrameOffset (d : ProfileDraft) (n : Option Int) : ProfileDraft :=
  { d with maxFrameOffset := n }

def withoutFrames (d : ProfileDraft) : ProfileDraft := { d with frames := false }

/-- A limit is no negative number, and only profiles with frames have one. -/
def check (d : ProfileDraft) : Except ConfigFault Unit :=
  match d.maxFrameOffset with
  | none => .ok ()
  | some n =>
    if n < 0 then .error (.negativeFrameLimit n)
    else if d.frames then .ok ()
    else .error .limitWithoutFrames

def build (d : ProfileDraft) (target : Target) : Except ConfigFault Profile :=
  d.check.map fun _ => ⟨target, d.frames, d.maxFrameOffset⟩

end ProfileDraft

end WindowSql
