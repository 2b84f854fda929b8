import WindowSql.Proofs.LongIntegers
import WindowSql.Window.Text

/-!
# Literals in SQL text

What of a text depends on the literals of an expression:

* `Literal.admitted_of_same`: a constant that is the same as one that has a text has one too;
* `Dialect.numeral_spelling`: numbers and truth values are written with characters of one class;
* `DifferBy`: two texts that are one text but for some literals, and how such texts are put
  together;
* `alike_of_same`: expressions that are the same are written alike, and by the same text exactly
  when their literals are.
-/

namespace WindowSql

/-- A multiple of a power of two has no more bits than what it is a multiple of. -/
theorem lt_two_pow_of_mul_eq {m n s unit a b : Nat} (value : m * 2 ^ s = n * 2 ^ unit)
    (bits : m < 2 ^ a) (range : a + s ≤ b + unit) : n < 2 ^ b := by
  have scaled : n * 2 ^ unit < 2 ^ b * 2 ^ unit := calc
    n * 2 ^ unit = m * 2 ^ s := value.symm
    _ < 2 ^ a * 2 ^ s := Nat.mul_lt_mul_of_pos_right bits (Nat.two_pow_pos s)
    _ = 2 ^ (a + s) := (Nat.pow_add ..).symm
    _ ≤ 2 ^ (b + unit) := Nat.pow_le_pow_right (by decide) range
    _ = 2 ^ b * 2 ^ unit := Nat.pow_add ..
  exact Nat.lt_of_mul_lt_mul_right scaled

theorem Double.significand_lt (e : Fin 2047) (f : Fin fractions) :
    significand e f < 2 ^ 53 := by
  have fraction : f.val < 2 ^ 52 := f.isLt
  unfold significand
  unfold fractions
  split <;> omega

theorem Double.units_natAbs (negative : Bool) (e : Fin 2047) (f : Fin fractions) :
    (units negative e f).natAbs = significand e f * 2 ^ scale e := by
  simp only [units]
  split
  · rw [Int.natAbs_neg]
    rfl
  · rfl

theorem Double.natAbs_lt_of_isInt {x : Double} {i : Int} (h : x.isInt i = true) {digits : Nat}
    (many : 342 ≤ digits) : i.natAbs < 10 ^ digits := by
  cases x with
  | nan | infinite => cases h
  | finite negative e f =>
    have value : significand e f * 2 ^ scale e = i.natAbs * Nat.pow 2 1074 := by
      rw [← units_natAbs negative, beq_iff_eq.mp h, Int.natAbs_mul, Int.natAbs_natCast]
    have range : 53 + scale e ≤ 3 * digits + 1074 := by
      have small := e.isLt
      unfold scale
      omega
    have bits := lt_two_pow_of_mul_eq value (significand_lt e f) range
    rw [Nat.pow_mul] at bits
    exact Nat.lt_of_lt_of_le bits (Nat.pow_le_pow_left (by decide) digits)

theorem Literal.admitted_of_same {l : Limits} {v w : Literal} (h : v.same w = true)
    (admitted : v.Admitted l) : w.Admitted l := by
  cases w with
  | int i =>
    cases v with
    | null => cases h
    | str s => cases h
    | int j =>
      obtain rfl : j = i := by simpa [same, quantity?, Quantity.same] using h
      exact admitted
    | float x => exact fun _ limit => Double.natAbs_lt_of_isInt h (by
      have floor := l.floor_le limit
      omega)
    | bool b =>
      obtain rfl : (if b then 1 else 0) = i := by simpa [same, quantity?, Quantity.same] using h
      have digit : (if b then 1 else 0 : Int).natAbs < 10 ^ 1 := by cases b <;> decide
      exact l.admits_of_natAbs_lt (by decide) digit
  | _ => trivial

def isNumeralChar (c : Char) : Bool := c.isAlphanum || c == '.' || c == '+' || c == '-'

def Numeral (cs : List Char) : Prop := ∀ c ∈ cs, isNumeralChar c = true

instance (cs : List Char) : Decidable (Numeral cs) :=
  List.decidableBAll _ cs

theorem numeral_append {cs ds : List Char} : Numeral (cs ++ ds) ↔ Numeral cs ∧ Numeral ds :=
  List.forall_mem_append

theorem numeral_cons {c : Char} {cs : List Char} :
    Numeral (c :: cs) ↔ isNumeralChar c = true ∧ Numeral cs :=
  List.forall_mem_cons

theorem numeral_nil : Numeral [] := nofun

theorem Numeral.subset {cs ds : List Char} (h : Numeral ds) (sub : cs ⊆ ds) : Numeral cs :=
  fun c hc => h c (sub hc)

theorem numeral_digits (n : Nat) : Numeral (Nat.toDigits 10 n) := by
  intro c hc
  have digit : c.isDigit = true := Nat.isDigit_of_mem_toDigits (by decide) (by decide) hc
  simp [isNumeralChar, Char.isAlphanum, digit]

theorem numeral_int (i : Int) : Numeral (toString i).toList := by
  rw [Int.toString_eq_repr, Int.repr_eq_if]
  split
  · rw [Nat.toList_repr]
    exact numeral_digits _
  · rw [String.toList_append, Nat.toList_repr]
    exact numeral_append.mpr ⟨by decide, numeral_digits _⟩

namespace NumberLayout

theorem numeral_zeros (n : Nat) : Numeral (zeros n) := by
  intro c hc
  rw [List.eq_of_mem_replicate hc]
  decide

theorem numeral_exponent (layout : NumberLayout) (e : Int) : Numeral (layout.exponent e) := by
  have sign : Numeral ['e', if e < 0 then '-' else '+'] := by split <;> decide
  exact numeral_append.mpr ⟨numeral_append.mpr ⟨sign, numeral_zeros _⟩, numeral_digits _⟩

theorem numeral_positional {digits : List Char} (h : Numeral digits) (point : Int) :
    Numeral (positional digits point) := by
  have point' : isNumeralChar '.' = true := by decide
  unfold positional
  split
  · exact numeral_append.mpr ⟨numeral_append.mpr ⟨by decide, numeral_zeros _⟩, h⟩
  · split
    · have before := h.subset (List.take_subset point.toNat digits)
      have after := h.subset (List.drop_subset point.toNat digits)
      exact numeral_append.mpr ⟨before, numeral_cons.mpr ⟨point', after⟩⟩
    · exact numeral_append.mpr ⟨numeral_append.mpr ⟨h, numeral_zeros _⟩, by decide⟩

theorem numeral_scientific (layout : NumberLayout) {digits : List Char} (h : Numeral digits)
    (e : Int) : Numeral (layout.scientific digits e) := by
  have exponent := layout.numeral_exponent e
  unfold scientific
  split
  · exact numeral_nil
  · exact numeral_cons.mpr ⟨(numeral_cons.mp h).1, exponent⟩
  · obtain ⟨first, rest⟩ := numeral_cons.mp h
    refine numeral_cons.mpr ⟨first, numeral_cons.mpr ⟨by decide, ?_⟩⟩
    exact numeral_append.mpr ⟨rest, exponent⟩

theorem numeral_decimal (layout : NumberLayout) (d : Decimal) : Numeral (layout.decimal d) := by
  simp only [decimal]
  split
  · exact layout.numeral_scientific (numeral_digits _) _
  · exact numeral_positional (numeral_digits _) _

end NumberLayout

theorem Double.numeral_text (x : Double) : Numeral x.text.toList := by
  have sign (negative : Bool) : Numeral (if negative then "-" else "").toList := by
    cases negative <;> decide
  cases x with
  | nan => decide
  | infinite negative => cases negative <;> decide
  | finite negative e f =>
    rw [Double.text, String.toList_append, String.toList_ofList]
    refine numeral_append.mpr ⟨sign negative, ?_⟩
    simp only [magnitudeChars]
    split
    · decide
    · exact NumberLayout.numeral_decimal _ _

theorem Dialect.numeral_spelling (d : Dialect) {v : Literal} {q : Quantity}
    (h : v.quantity? = some q) : Numeral (d.spelling v).toList := by
  cases v with
  | null => cases h
  | str s => cases h
  | int i => exact numeral_int i
  | float x => exact x.numeral_text
  | bool b =>
    cases numeric : d.numericBooleans <;> cases b <;>
      simp only [Dialect.spelling, numeric] <;> decide

/-- A text that goes on after a numeral without being read as a part of it. -/
def Stops (s : String) : Prop := ∀ c, s.toList.head? = some c → isNumeralChar c = false

theorem Stops.of_head {s : String} {c : Char} (head : s.toList.head? = some c)
    (stop : isNumeralChar c = false) (rest : String) : Stops (s ++ rest) := by
  intro c' hc'
  rw [String.toList_append, List.head?_append, head] at hc'
  cases hc'
  exact stop

theorem takeWhile_numeral {cs : List Char} (h : Numeral cs) {rest : String} (stops : Stops rest) :
    (cs ++ rest.toList).takeWhile isNumeralChar = cs := by
  rw [List.takeWhile_append_of_pos h]
  have none : rest.toList.takeWhile isNumeralChar = [] := by
    cases hr : rest.toList with
    | nil => rfl
    | cons c tail => simp [stops c (by simp [hr])]
  rw [none, List.append_nil]

/-- Two texts that are put together alike from the given literals, and differ by nothing else: they
are read apart from whatever stops a numeral, and they are one text exactly when the literals are
the same. -/
structure DifferBy (vs vs' : List String) (x x' : String) : Prop where
  length : vs.length = vs'.length
  apart : ∀ rest rest', Stops rest → Stops rest' → x ++ rest = x' ++ rest' → x = x' ∧ rest = rest'
  eq_iff : x = x' ↔ vs = vs'

namespace DifferBy
variable {vs vs' ws ws' : List String} {x x' y y' : String}

theorem refl (vs : List String) (x : String) : DifferBy vs vs x x :=
  ⟨rfl, fun _ _ _ _ eq => ⟨rfl, String.append_right_inj _ |>.mp eq⟩, iff_of_true rfl rfl⟩

theorem numerals (hx : Numeral x.toList) (hx' : Numeral x'.toList) : DifferBy [x] [x'] x x' := by
  refine ⟨rfl, fun rest rest' stops stops' eq => ?_, by simp⟩
  have chars := congrArg String.toList eq
  rw [String.toList_append, String.toList_append] at chars
  have same : x = x' := by
    have words := congrArg (List.takeWhile isNumeralChar) chars
    rw [takeWhile_numeral hx stops, takeWhile_numeral hx' stops'] at words
    exact String.toList_inj.mp words
  subst same
  exact ⟨rfl, String.append_right_inj _ |>.mp eq⟩

theorem prepend (h : DifferBy vs vs' x x') (t : String) :
    DifferBy vs vs' (t ++ x) (t ++ x') := by
  refine ⟨h.length, fun rest rest' stops stops' eq => ?_, ?_⟩
  · rw [String.append_assoc, String.append_assoc, String.append_right_inj] at eq
    obtain ⟨same, rests⟩ := h.apart rest rest' stops stops' eq
    exact ⟨by rw [same], rests⟩
  · rw [String.append_right_inj, h.eq_iff]

/-- A text, a separator, and another text. -/
theorem separated {sep : String} (hx : DifferBy vs vs' x x') (stops : ∀ rest, Stops (sep ++ rest))
    (hy : DifferBy ws ws' y y') :
    DifferBy (vs ++ ws) (vs' ++ ws') (x ++ (sep ++ y)) (x' ++ (sep ++ y')) := by
  have hy := hy.prepend sep
  refine ⟨by simp [hx.length, hy.length], fun rest rest' after after' eq => ?_, ?_⟩
  · rw [String.append_assoc, @String.append_assoc x'] at eq
    have stop : Stops (sep ++ y ++ rest) := by simpa [String.append_assoc] using stops (y ++ rest)
    have stop' : Stops (sep ++ y' ++ rest') := by
      simpa [String.append_assoc] using stops (y' ++ rest')
    obtain ⟨first, later⟩ := hx.apart _ _ stop stop' eq
    obtain ⟨second, rests⟩ := hy.apart _ _ after after' later
    exact ⟨by rw [first, second], rests⟩
  · have split : x ++ (sep ++ y) = x' ++ (sep ++ y') ↔ x = x' ∧ sep ++ y = sep ++ y' :=
      ⟨hx.apart _ _ (stops y) (stops y'), fun ⟨first, second⟩ => by rw [first, second]⟩
    rw [split, hx.eq_iff, hy.eq_iff]
    exact ⟨fun ⟨first, second⟩ => by rw [first, second], fun eq => List.append_inj eq hx.length⟩

theorem closed {close : String} (h : DifferBy vs vs' x x') (stops : ∀ rest, Stops (close ++ rest)) :
    DifferBy vs vs' (x ++ close) (x' ++ close) := by
  simpa using h.separated stops (refl [] "")

theorem operand (h : DifferBy vs vs' x x') {e e' : Expr} (same : e.isBinary = e'.isBinary) :
    DifferBy vs vs' (e.operand x) (e'.operand x') := by
  unfold Expr.operand
  rw [← same]
  split
  · exact (h.prepend "(").closed (.of_head rfl rfl)
  · exact h

end DifferBy

/-- What is written for `a` is written for `b` too, but for the literals in it. -/
def Alike {α : Type} (write : α → Except Failure String) (literals : α → List String) (a b : α) :
    Prop :=
  ∀ t, write a = .ok t → ∃ t', write b = .ok t' ∧ DifferBy (literals a) (literals b) t t'

theorem Alike.refl {α : Type} (write : α → Except Failure String) (literals : α → List String)
    (a : α) : Alike write literals a a :=
  fun t h => ⟨t, h, .refl _ t⟩

/-- A list that is written with commas. -/
theorem Alike.list {α : Type} {write : α → Except Failure String} {literals : α → List String}
    {as bs : List α} (alike : List.Forall₂ (Alike write literals) as bs) {ts : List String}
    (h : as.mapM write = .ok ts) :
    ∃ ts', bs.mapM write = .ok ts' ∧ ts.isEmpty = ts'.isEmpty ∧
      DifferBy (as.flatMap literals) (bs.flatMap literals) (", ".intercalate ts)
        (", ".intercalate ts') := by
  induction alike generalizing ts with
  | nil =>
    cases mapM_eq_ok.mp h
    exact ⟨[], rfl, rfl, .refl [] _⟩
  | @cons a b as bs first others ih =>
    obtain ⟨t, rest, ht, hrest, rfl⟩ := List.forall₂_cons_left_iff.mp (mapM_eq_ok.mp h)
    obtain ⟨t', ht', differ⟩ := first t ht
    obtain ⟨rest', hrest', empty, later⟩ := ih (mapM_eq_ok.mpr hrest)
    refine ⟨t' :: rest', mapM_eq_ok.mpr (.cons ht' (mapM_eq_ok.mp hrest')), rfl, ?_⟩
    rw [List.flatMap_cons, List.flatMap_cons]
    cases hrest with
    | nil =>
      cases others
      cases mapM_eq_ok.mp hrest'
      simpa using differ
    | cons =>
      have nonempty : rest' ≠ [] := by
        rintro rfl
        cases empty
      rw [String.intercalate_cons_of_ne_nil nonempty,
        String.intercalate_cons_of_ne_nil (List.cons_ne_nil _ _), String.append_assoc,
        String.append_assoc]
      exact differ.separated (.of_head rfl rfl) later

theorem Literal.eq_or_quantities_of_same {v v' : Literal} (h : v.same v' = true) :
    v = v' ∨ (∃ q, v.quantity? = some q) ∧ ∃ q', v'.quantity? = some q' := by
  unfold Literal.same at h
  split at h
  · rename_i q q' hq hq'
    exact .inr ⟨⟨q, hq⟩, q', hq'⟩
  · exact .inl (beq_iff_eq.mp h)
  · cases h

namespace Expr

/-- The texts of the literals of an expression, those of its calls left out. -/
def literalTexts (d : Dialect) : Expr → List String
  | literal v => [d.spelling v]
  | binary _ l r => literalTexts d l ++ literalTexts d r
  | desc e => literalTexts d e
  | _ => []

theorem isBinary_of_same {a b : Expr} (h : a.same b = true) : a.isBinary = b.isBinary := by
  cases a <;> cases b <;> simp_all [same, isBinary]

theorem alike_of_same (l : Limits) (d : Dialect) (call : Call → Except Failure String) {a b : Expr}
    (h : a.same b = true) (noCalls : a.calls = []) :
    Alike (Expr.sql l d call) (literalTexts d) a b := by
  induction a generalizing b with
  | column name =>
    cases b with
    | column name' =>
      obtain rfl : name = name' := by simpa [same] using h
      exact .refl _ _ _
    | _ => simp [same] at h
  | literal v =>
    cases b with
    | literal v' =>
      intro t ht
      obtain ⟨admitted, rfl⟩ := d.literal_eq_ok.mp (LongInteger.lift_eq_ok.mp ht)
      have text := d.literal_eq_ok.mpr ⟨Literal.admitted_of_same h admitted, rfl⟩
      refine ⟨_, LongInteger.lift_eq_ok.mpr text, ?_⟩
      rcases Literal.eq_or_quantities_of_same h with rfl | ⟨⟨q, hq⟩, ⟨q', hq'⟩⟩
      · exact .refl _ _
      · exact .numerals (d.numeral_spelling hq) (d.numeral_spelling hq')
    | _ => simp [same] at h
  | call => simp [calls] at noCalls
  | binary op l r ihl ihr =>
    cases b with
    | binary op' l' r' =>
      simp only [same, Bool.and_eq_true, beq_iff_eq] at h
      obtain ⟨⟨rfl, left⟩, right⟩ := h
      simp only [calls, List.append_eq_nil_iff] at noCalls
      intro t ht
      simp only [Expr.sql, bind_eq_ok, pure_eq_ok, Except.ok.injEq] at ht
      obtain ⟨x, hx, y, hy, rfl⟩ := ht
      obtain ⟨x', hx', differ⟩ := ihl left noCalls.1 x hx
      obtain ⟨y', hy', differ'⟩ := ihr right noCalls.2 y hy
      refine ⟨_, by rw [Expr.sql, hx', hy']; rfl, ?_⟩
      have second := (differ'.operand (isBinary_of_same right)).prepend (op.sql ++ " ")
      have blank : ∀ rest, Stops (" " ++ rest) := .of_head rfl rfl
      have both := (differ.operand (isBinary_of_same left)).separated blank second
      simpa [literalTexts, String.append_assoc] using both
    | _ => simp [same] at h
  | desc e =>
    intro t ht
    cases ht

end Expr

end WindowSql
