import Mathlib.Algebra.Order.Field.Power
import Mathlib.Data.Rat.Defs
import Mathlib.Tactic.Ring
import WindowSql.Number.Shortest

/-!
# Reading decimals back

The text of a decimal gives its value back, whichever layout it was written in:

* `readDecimal`: the value of a text of digits, with or without a point and an exponent;
* `readDecimal_decimal`: a decimal reads back as the value it was written for, and
  `readInteger_toString`: so does an integer;
* `Decimal.value_trim`: taking trailing zeros off the digits changes no value.
-/

namespace WindowSql

def Decimal.value (d : Decimal) : ℚ := d.digits * 10 ^ d.power

theorem Decimal.value_trim (d : Decimal) (steps : Nat) : (d.trim steps).value = d.value := by
  induction steps generalizing d with
  | zero => rfl
  | succ steps ih =>
    rw [trim]
    split
    · rename_i zero
      have digits : (d.digits : ℚ) = (d.digits / 10 : ℕ) * 10 := by
        exact_mod_cast (Nat.div_mul_cancel (Nat.dvd_of_mod_eq_zero zero.2)).symm
      rw [ih, value, value, digits, zpow_add₀ (by norm_num), zpow_one]
      ring
    · rfl

def readDigits (cs : List Char) : ℕ := Nat.ofDigitChars 10 cs 0

def readSigned : List Char → ℤ
  | [] => 0
  | sign :: cs => if sign = '-' then -readDigits cs else readDigits cs

/-- What stands before and after the first `stop`. -/
def cut (stop : Char) : List Char → List Char × List Char
  | [] => ([], [])
  | c :: cs => if c = stop then ([], cs) else (c :: (cut stop cs).1, (cut stop cs).2)

theorem cut_of_notMem {stop : Char} {cs : List Char} (h : stop ∉ cs) : cut stop cs = (cs, []) := by
  induction cs with
  | nil => rfl
  | cons c cs ih =>
    obtain ⟨first, others⟩ := not_or.mp (mt List.mem_cons.mpr h)
    rw [cut, if_neg (Ne.symm first), ih others]

theorem cut_append {stop : Char} {cs : List Char} (h : stop ∉ cs) (rest : List Char) :
    cut stop (cs ++ stop :: rest) = (cs, rest) := by
  induction cs with
  | nil => exact if_pos rfl
  | cons c cs ih =>
    obtain ⟨first, others⟩ := not_or.mp (mt List.mem_cons.mpr h)
    rw [List.cons_append, cut, if_neg (Ne.symm first), ih others]

/-- The value of digits with a point among them. -/
def readPoint (cs : List Char) : ℚ :=
  readDigits ((cut '.' cs).1 ++ (cut '.' cs).2) * 10 ^ (-(cut '.' cs).2.length : ℤ)

/-- The value of a text with a point or an exponent, or both. -/
def readDecimal (cs : List Char) : ℚ := readPoint (cut 'e' cs).1 * 10 ^ readSigned (cut 'e' cs).2

theorem readPoint_whole {cs : List Char} (h : '.' ∉ cs) : readPoint cs = readDigits cs := by
  simp [readPoint, cut_of_notMem h]

theorem readPoint_point {whole : List Char} (h : '.' ∉ whole) (part : List Char) :
    readPoint (whole ++ '.' :: part) = readDigits (whole ++ part) * 10 ^ (-part.length : ℤ) := by
  rw [readPoint, cut_append h]

theorem readDecimal_plain {cs : List Char} (h : 'e' ∉ cs) : readDecimal cs = readPoint cs := by
  simp [readDecimal, cut_of_notMem h, readSigned]

theorem readDecimal_exponent {mantissa : List Char} (h : 'e' ∉ mantissa) (exponent : List Char) :
    readDecimal (mantissa ++ 'e' :: exponent) = readPoint mantissa * 10 ^ readSigned exponent := by
  rw [readDecimal, cut_append h]

theorem readDigits_append (cs ds : List Char) :
    readDigits (cs ++ ds) = readDigits cs * 10 ^ ds.length + readDigits ds := by
  rw [readDigits, Nat.ofDigitChars_append, Nat.ofDigitChars_eq_ofDigitChars_zero, mul_comm]
  rfl

theorem readDigits_toDigits (n : ℕ) : readDigits (Nat.toDigits 10 n) = n :=
  Nat.ofDigitChars_toDigits (by decide) (by decide)

theorem readDigits_zeros (n : ℕ) : readDigits (NumberLayout.zeros n) = 0 := by
  rw [readDigits, NumberLayout.zeros, Nat.ofDigitChars_replicate_zero, mul_zero]

theorem notMem_toDigits {c : Char} (h : c.isDigit = false) (n : ℕ) : c ∉ Nat.toDigits 10 n := by
  intro mem
  have digit := Nat.isDigit_of_mem_toDigits (by decide) (by decide) mem
  rw [h] at digit
  cases digit

theorem notMem_zeros {c : Char} (h : c ≠ '0') (n : ℕ) : c ∉ NumberLayout.zeros n :=
  fun mem => h (List.eq_of_mem_replicate mem)

def readInteger (cs : List Char) : ℤ :=
  if cs.head? = some '-' then -readDigits cs.tail else readDigits cs

theorem readInteger_toString (i : ℤ) : readInteger (toString i).toList = i := by
  rw [Int.toString_eq_repr, Int.repr_eq_if, readInteger]
  split
  · rename_i positive
    have unsigned : (Nat.toDigits 10 i.toNat).head? ≠ some '-' := fun head =>
      notMem_toDigits (c := '-') rfl i.toNat (List.mem_of_mem_head? head)
    rw [Nat.toList_repr, if_neg unsigned, readDigits_toDigits]
    omega
  · rename_i negative
    have text : ("-" ++ (-i).toNat.repr).toList = '-' :: Nat.toDigits 10 (-i).toNat := by
      rw [String.toList_append, Nat.toList_repr]
      rfl
    have signed : ('-' :: Nat.toDigits 10 (-i).toNat).head? = some '-' := rfl
    rw [text, if_pos signed, List.tail_cons, readDigits_toDigits]
    omega

namespace NumberLayout

/-- The exponent of a text reads back, whatever zeros it is filled with. -/
theorem exists_exponent (layout : NumberLayout) (e : ℤ) :
    ∃ exponent, layout.exponent e = 'e' :: exponent ∧ readSigned exponent = e := by
  have digits : readDigits (zeros (layout.exponentDigits - (Nat.toDigits 10 e.natAbs).length) ++
      Nat.toDigits 10 e.natAbs) = e.natAbs := by
    rw [readDigits_append, readDigits_zeros, readDigits_toDigits, zero_mul, zero_add]
  refine ⟨(if e < 0 then '-' else '+') ::
    (zeros (layout.exponentDigits - (Nat.toDigits 10 e.natAbs).length) ++
      Nat.toDigits 10 e.natAbs), rfl, ?_⟩
  rw [readSigned, digits]
  by_cases negative : e < 0
  · rw [if_pos negative, if_pos rfl]
    omega
  · rw [if_neg negative, if_neg (by decide)]
    omega

theorem readDecimal_scientific (layout : NumberLayout) (n : ℕ) (e : ℤ) :
    readDecimal (layout.scientific (Nat.toDigits 10 n) e) =
      n * 10 ^ (e + 1 - (Nat.toDigits 10 n).length : ℤ) := by
  obtain ⟨exponent, written, read⟩ := layout.exists_exponent e
  have value := readDigits_toDigits n
  have nonempty : Nat.toDigits 10 n ≠ [] := Nat.toDigits_ne_nil
  have noPoint : '.' ∉ Nat.toDigits 10 n := notMem_toDigits rfl n
  have noExponent : 'e' ∉ Nat.toDigits 10 n := notMem_toDigits rfl n
  generalize Nat.toDigits 10 n = digits at *
  match digits with
  | [] => exact absurd rfl nonempty
  | [d] =>
    have text : layout.scientific [d] e = [d] ++ 'e' :: exponent := by rw [scientific, written]; rfl
    rw [text, readDecimal_exponent noExponent, readPoint_whole noPoint, value, read]
    simp
  | d :: d' :: rest =>
    have text : layout.scientific (d :: d' :: rest) e =
        ([d] ++ '.' :: d' :: rest) ++ 'e' :: exponent := by
      rw [scientific, written]
      · rfl
      · exact List.cons_ne_nil _ _
    have mantissa : 'e' ∉ [d] ++ '.' :: d' :: rest := by
      simp only [List.mem_append, List.mem_cons, not_or] at noExponent ⊢
      simp [noExponent]
    have whole : '.' ∉ [d] := fun mem => noPoint (by simp_all)
    rw [text, readDecimal_exponent mantissa, readPoint_point whole, List.singleton_append, value,
      read, mul_assoc, ← zpow_add₀ (by norm_num)]
    congr 2
    simp only [List.length_cons]
    omega

theorem readDecimal_positional (n : ℕ) (point : ℤ) :
    readDecimal (positional (Nat.toDigits 10 n) point) =
      n * 10 ^ (point - (Nat.toDigits 10 n).length : ℤ) := by
  have value := readDigits_toDigits n
  have noPoint : '.' ∉ Nat.toDigits 10 n := notMem_toDigits rfl n
  have noExponent : 'e' ∉ Nat.toDigits 10 n := notMem_toDigits rfl n
  generalize Nat.toDigits 10 n = digits at *
  have noPoint' (k : ℕ) : '.' ∉ zeros k := notMem_zeros (by decide) k
  have noExponent' (k : ℕ) : 'e' ∉ zeros k := notMem_zeros (by decide) k
  rw [positional]
  by_cases small : point ≤ 0
  · -- all digits stand after the point
    have text : ['0', '.'] ++ zeros (-point).toNat ++ digits =
        ['0'] ++ '.' :: (zeros (-point).toNat ++ digits) := by simp
    have plain : 'e' ∉ ['0'] ++ '.' :: (zeros (-point).toNat ++ digits) := by
      simp [noExponent, noExponent']
    have zero : readDigits ['0'] = 0 := rfl
    rw [if_pos small, text, readDecimal_plain plain, readPoint_point (by decide),
      readDigits_append, readDigits_append, readDigits_zeros, value, zero]
    simp only [zero_mul, zero_add, List.length_append, zeros, List.length_replicate]
    congr 2
    push_cast
    omega
  rw [if_neg small]
  by_cases inside : point.toNat < digits.length
  · -- the point stands among the digits
    have split : digits.take point.toNat ++ digits.drop point.toNat = digits :=
      List.take_append_drop _ _
    have plain : 'e' ∉ digits.take point.toNat ++ '.' :: digits.drop point.toNat := by
      simp only [List.mem_append, List.mem_cons, not_or]
      exact ⟨fun mem => noExponent (List.mem_of_mem_take mem), by decide,
        fun mem => noExponent (List.mem_of_mem_drop mem)⟩
    have whole : '.' ∉ digits.take point.toNat := fun mem => noPoint (List.mem_of_mem_take mem)
    rw [if_pos inside, readDecimal_plain plain, readPoint_point whole, split, value,
      List.length_drop]
    congr 2
    omega
  · -- zeros fill the digits up to the point
    have text : digits ++ zeros (point.toNat - digits.length) ++ ['.', '0'] =
        (digits ++ zeros (point.toNat - digits.length)) ++ '.' :: ['0'] := rfl
    have whole : '.' ∉ digits ++ zeros (point.toNat - digits.length) := by
      simp [noPoint, noPoint']
    have plain : 'e' ∉ (digits ++ zeros (point.toNat - digits.length)) ++ '.' :: ['0'] := by
      simp [noExponent, noExponent']
    have zero : readDigits ['0'] = 0 := rfl
    rw [if_neg inside, text, readDecimal_plain plain, readPoint_point whole, readDigits_append,
      readDigits_append, readDigits_zeros, value, zero]
    have filled : point - digits.length = (point.toNat - digits.length : ℕ) := by omega
    rw [filled, zpow_natCast]
    simp [zeros]

/-- **Decimals read back.** The text of a decimal, positional or with an exponent, has its value. -/
theorem readDecimal_decimal (layout : NumberLayout) (d : Decimal) :
    readDecimal (layout.decimal d) = d.value := by
  rw [decimal, Decimal.value]
  split
  · rw [readDecimal_scientific]
    congr 2
    omega
  · rw [readDecimal_positional]
    congr 2
    omega

/-- A text begins with a digit, and has a point or an exponent. -/
structure Fractional (cs : List Char) : Prop where
  head : ∃ c, cs.head? = some c ∧ c.isDigit = true
  marked : '.' ∈ cs ∨ 'e' ∈ cs

theorem fractional_decimal (layout : NumberLayout) (d : Decimal) :
    Fractional (layout.decimal d) := by
  have nonempty : Nat.toDigits 10 d.digits ≠ [] := Nat.toDigits_ne_nil
  have digit : ∀ c ∈ Nat.toDigits 10 d.digits, c.isDigit = true := fun c hc =>
    Nat.isDigit_of_mem_toDigits (by decide) (by decide) hc
  unfold decimal
  dsimp only
  generalize Nat.toDigits 10 d.digits = digits at *
  obtain ⟨c, rest, rfl⟩ := List.exists_cons_of_ne_nil nonempty
  have first : c.isDigit = true := digit c List.mem_cons_self
  split
  · obtain ⟨exponent, written, -⟩ := layout.exists_exponent (d.power + (c :: rest).length - 1)
    unfold scientific
    rw [written]
    split
    · rename_i empty
      cases empty
    · rename_i only
      obtain ⟨rfl, rfl⟩ := List.cons.inj only
      exact ⟨⟨c, rfl, first⟩, .inr (by simp)⟩
    · rename_i more
      obtain ⟨rfl, rfl⟩ := List.cons.inj more
      exact ⟨⟨c, rfl, first⟩, .inr (by simp)⟩
  · unfold positional
    split
    · exact ⟨⟨'0', rfl, rfl⟩, .inl (by simp)⟩
    rename_i positive
    split
    · obtain ⟨point, hp⟩ : ∃ point,
          (d.power + (c :: rest).length - 1 + 1).toNat = point + 1 :=
        Nat.exists_eq_succ_of_ne_zero (by omega)
      rw [hp]
      exact ⟨⟨c, rfl, first⟩, .inl (by simp)⟩
    · exact ⟨⟨c, rfl, first⟩, .inl (by simp)⟩

end NumberLayout

end WindowSql
