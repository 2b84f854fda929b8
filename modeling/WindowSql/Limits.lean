/-!
How large the integers of a text and the nesting of a document may be.

An integer of more digits than the limit is neither written nor read. Every integer that is also a
floating number has fewer than six hundred and forty digits, and no limit is smaller than that.
Numbers that count something, such as the counters of names, never come near a limit and are written
without one.
-/

namespace WindowSql

structure Limits where
  /-- The most digits that an integer is written or read with, if there is a limit. -/
  digits : Option Nat := some 4300
  /-- How many arrays and objects may be open at once in a text that is read. -/
  nesting : Nat := 990
  digits_floor : digits.all (640 ≤ ·) = true := by decide
  deriving DecidableEq, Repr

instance : Inhabited Limits := ⟨{}⟩

/-- An integer that has too many digits to be written. -/
structure LongInteger where
  limit : Nat
  deriving DecidableEq, Repr

def LongInteger.message (f : LongInteger) : String :=
  "Exceeds the limit (" ++ toString f.limit ++ " digits) for integer string conversion; "
    ++ "use sys.set_int_max_str_digits() to increase the limit"

/-- The limit that a number of digits is beyond, if it is. -/
def Limits.exceeded? (l : Limits) (digits : Nat) : Option Nat := l.digits.filter (· < digits)

def Limits.text (l : Limits) (i : Int) : Except LongInteger String :=
  match l.exceeded? (Nat.toDigits 10 i.natAbs).length with
  | some limit => .error ⟨limit⟩
  | none => .ok (toString i)

end WindowSql
