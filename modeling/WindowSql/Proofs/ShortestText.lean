import Mathlib.Algebra.Order.Field.Basic
import Mathlib.Data.Nat.Cast.Order.Field
import Mathlib.Tactic.FieldSimp
import Mathlib.Tactic.Linarith
import Mathlib.Tactic.NormNum
import WindowSql.Proofs.DecimalText

/-!
# Shortest texts are told apart

The text of a number lies so near to it that it reads back as no other number:

* `Rounds`: the values that round to a magnitude, and `Rounds.lt`: that those of a greater magnitude
  are greater;
* `magnitude_le`, `onGrid?_ne_none`: seventeen digits are enough, so the search ends with a decimal
  that rounds to the magnitude (`rounds_shortest`);
* `Double.text_injective`: numbers of one text are one number.
-/

namespace WindowSql

namespace Decimal

def Ratio.value (x : Ratio) : ℚ := x.num / x.den

def Interval.Has (i : Interval) (x : ℚ) : Prop :=
  if i.closed then i.low ≤ x ∧ x ≤ i.high else i.low < x ∧ x < i.high

theorem Interval.contains_iff {i : Interval} {x : Ratio} (positive : 0 < x.den) :
    i.contains x = true ↔ i.Has x.value := by
  have den : (0 : ℚ) < x.den := by exact_mod_cast positive
  unfold contains Has Ratio.value
  split
  · simp only [Bool.and_eq_true, decide_eq_true_eq, le_div_iff₀ den, div_le_iff₀ den]
    norm_cast
  · simp only [Bool.and_eq_true, decide_eq_true_eq, lt_div_iff₀ den, div_lt_iff₀ den]
    norm_cast

/-- The ends of an interval, the lower one nearer to the value at a power of two. -/
theorem Interval.around_ends (m s : ℕ) :
    4 * m - 2 ≤ (around m s).low ∧ (around m s).low ≤ 4 * m - 1 ∧
    (around m s).high = 4 * m + 2 ∧
    (m = fractions ∧ 0 < s → 4 * m - 1 ≤ (around m s).low) := by
  simp only [around]
  split
  · exact ⟨by omega, by omega, trivial, fun _ => Nat.le_refl _⟩
  · rename_i other
    exact ⟨by omega, by omega, trivial, fun boundary => absurd boundary other⟩

/-- How many quarters of the smallest unit make one. -/
def quarters : ℚ := 2 ^ 1076

theorem quarters_eq : quarters = 2 ^ (1074 + 2) := rfl

theorem quarters_pos : 0 < quarters := by
  unfold quarters
  positivity

/-- Stated for any exponent, so that no power is computed where this is used. -/
theorem natPow_pos {b : ℕ} (positive : 0 < b) (n : ℕ) : 0 < Nat.pow b n := Nat.pow_pos positive

theorem inQuarters_den_pos (c : ℕ) (power : ℤ) (s : ℕ) : 0 < (inQuarters c power s).den := by
  unfold inQuarters
  split
  · exact natPow_pos (by decide) _
  · exact Nat.mul_pos (natPow_pos (by decide) _) (natPow_pos (by decide) _)

theorem value_inQuarters (c : ℕ) (power : ℤ) (s : ℕ) :
    (inQuarters c power s).value = c * 10 ^ power * quarters / 2 ^ s := by
  unfold inQuarters Ratio.value quarters
  -- the numeral must not be computed
  generalize 1076 = k
  split
  · rename_i positive
    obtain ⟨n, rfl⟩ := Int.eq_ofNat_of_zero_le positive
    simp
  · rename_i negative
    obtain ⟨n, hn⟩ := Int.eq_ofNat_of_zero_le (a := -power) (by omega)
    obtain rfl : power = -n := by omega
    simp only [Nat.pow_eq, neg_neg, Int.toNat_natCast, zpow_neg, zpow_natCast]
    push_cast
    field_simp

/-- The values that are rounded to the magnitude `m · 2 ^ (s - 1074)`. -/
def Rounds (m s : ℕ) (v : ℚ) : Prop := (Interval.around m s).Has (v * quarters / 2 ^ s)

theorem Interval.Has.bounds {m s : ℕ} {x : ℚ} (h : (around m s).Has x) :
    (around m s).low ≤ x ∧ x ≤ (4 * m + 2 : ℕ) ∧
    (m % 2 = 1 → (around m s).low < x ∧ x < (4 * m + 2 : ℕ)) := by
  unfold Has at h
  split at h
  · rename_i closed
    have even : m % 2 = 0 := by simpa [around] using closed
    refine ⟨h.1, h.2, fun odd => ?_⟩
    omega
  · exact ⟨h.1.le, h.2.le, fun _ => h⟩

/-- A significand fills its bits, but at the smallest scale. -/
structure Normal (m s : ℕ) : Prop where
  lt : m < 2 * fractions
  full : s = 0 ∨ fractions ≤ m

/-- The intervals of two magnitudes touch at most at their ends, and one of them is open then. -/
theorem around_apart {m s m' k : ℕ} (h : Normal m s) (h' : Normal m' (s + k))
    (lt : 0 < k ∨ m < m') :
    4 * m + 2 < (Interval.around m' (s + k)).low * 2 ^ k ∨
    4 * m + 2 = (Interval.around m' (s + k)).low * 2 ^ k ∧ (m % 2 = 1 ∨ m' % 2 = 1) := by
  have ends := Interval.around_ends m' (s + k)
  generalize (Interval.around m' (s + k)).low = low at *
  have below := h.lt
  rcases Nat.eq_zero_or_pos k with rfl | positive
  · rw [Nat.pow_zero, Nat.mul_one]
    omega
  · -- one scale up the significand is full, and the unit at least twice as large
    have full : fractions ≤ m' := h'.full.resolve_left (by omega)
    have twice : 2 ≤ 2 ^ k := Nat.le_self_pow positive.ne' 2
    have scaled : low * 2 ≤ low * 2 ^ k := Nat.mul_le_mul_left low twice
    omega

/-- Greater magnitudes are rounded to from greater values. -/
theorem Rounds.lt {m s m' k : ℕ} {v v' : ℚ} (rounds : Rounds m s v) (rounds' : Rounds m' (s + k) v')
    (h : Normal m s) (h' : Normal m' (s + k)) (lt : 0 < k ∨ m < m') : v < v' := by
  obtain ⟨-, high, high'⟩ := Interval.Has.bounds rounds
  obtain ⟨low, -, low'⟩ := Interval.Has.bounds rounds'
  have unit : 0 < quarters / 2 ^ s := div_pos quarters_pos (by positivity)
  have scaled : v' * quarters / 2 ^ (s + k) * 2 ^ k = v' * (quarters / 2 ^ s) := by
    rw [pow_add]
    field_simp
  have pow : (0 : ℚ) < 2 ^ k := by positivity
  rw [mul_div_assoc] at high high'
  refine lt_of_mul_lt_mul_right ?_ unit.le
  rw [← scaled]
  have atLeast : ((Interval.around m' (s + k)).low : ℚ) * 2 ^ k ≤
      v' * quarters / 2 ^ (s + k) * 2 ^ k := mul_le_mul_of_nonneg_right low pow.le
  rcases around_apart h h' lt with apart | ⟨touch, odd⟩
  · have apart : ((4 * m + 2 : ℕ) : ℚ) < (Interval.around m' (s + k)).low * 2 ^ k := by
      exact_mod_cast apart
    exact high.trans_lt (apart.trans_le atLeast)
  · have touch : ((4 * m + 2 : ℕ) : ℚ) = (Interval.around m' (s + k)).low * 2 ^ k := by
      exact_mod_cast touch
    rcases odd with odd | odd
    · exact (high' odd).2.trans_le (touch.le.trans atLeast)
    · have more := mul_lt_mul_of_pos_right (low' odd).1 pow
      exact high.trans_lt (touch.trans_lt more)

theorem Rounds.pos {m s : ℕ} {v : ℚ} (rounds : Rounds m s v) (positive : 0 < m) : 0 < v := by
  obtain ⟨low, -, -⟩ := Interval.Has.bounds rounds
  obtain ⟨least, -⟩ := Interval.around_ends m s
  have above : (0 : ℚ) < (Interval.around m s).low := by
    have above : 0 < (Interval.around m s).low := by omega
    exact_mod_cast above
  have unit : 0 < quarters / 2 ^ s := div_pos quarters_pos (by positivity)
  rw [mul_div_assoc] at low
  exact pos_of_mul_pos_left (above.trans_le low) unit.le

/-- A value rounds to one magnitude. -/
theorem Rounds.unique {m s m' s' : ℕ} {v : ℚ} (rounds : Rounds m s v) (rounds' : Rounds m' s' v)
    (h : Normal m s) (h' : Normal m' s') : m = m' ∧ s = s' := by
  have ordered {m s m' s' : ℕ} (rounds : Rounds m s v) (rounds' : Rounds m' s' v)
      (h : Normal m s) (h' : Normal m' s') (le : s ≤ s') : s = s' ∧ ¬m < m' := by
    obtain ⟨k, rfl⟩ := Nat.exists_eq_add_of_le le
    by_contra apart
    exact lt_irrefl v (rounds.lt rounds' h h' (by omega))
  rcases Nat.le_total s s' with le | le
  · obtain ⟨rfl, notLess⟩ := ordered rounds rounds' h h' le
    obtain ⟨-, notMore⟩ := ordered rounds' rounds h' h le
    omega
  · obtain ⟨rfl, notMore⟩ := ordered rounds' rounds h' h le
    obtain ⟨-, notLess⟩ := ordered rounds rounds' h h' le
    omega

theorem lt_pow_width (n : ℕ) : n < 10 ^ width n :=
  (Nat.length_toDigits_le_iff (by decide) Nat.length_toDigits_pos).mp (Nat.le_refl _)

theorem pow_width_le {n : ℕ} (positive : 0 < n) : 10 ^ (width n - 1) ≤ n := by
  rcases Nat.eq_zero_or_pos (width n - 1) with one | more
  · rwa [one]
  · have long : ¬width n ≤ width n - 1 := by omega
    have fits := Nat.length_toDigits_le_iff (b := 10) (n := n) (by decide) more
    exact Nat.le_of_not_lt fun small => long (fits.mpr small)

/-- The leading digit of a ratio stands at its magnitude. -/
theorem magnitude_le {num den : ℕ} (hn : 0 < num) (hd : 0 < den) :
    (10 : ℚ) ^ magnitude num den ≤ num / den := by
  have den' : (0 : ℚ) < den := by exact_mod_cast hd
  unfold magnitude
  split
  · rename_i whole
    have quotient : 0 < num / den := Nat.div_pos whole hd
    have width_pos : 0 < width (num / den) := Nat.length_toDigits_pos
    have power : (width (num / den) : ℤ) - 1 = (width (num / den) - 1 : ℕ) := by omega
    rw [power, zpow_natCast]
    calc (10 : ℚ) ^ (width (num / den) - 1)
        ≤ (num / den : ℕ) := by exact_mod_cast pow_width_le quotient
      _ ≤ num / den := Nat.cast_div_le
  · -- the ratio is the reciprocal of a quotient that is rounded up
    have rounded : den + num - 1 < num * ((den + num - 1) / num + 1) := Nat.lt_mul_div_succ _ hn
    have digits := lt_pow_width ((den + num - 1) / num - 1)
    generalize width ((den + num - 1) / num - 1) = w at *
    have quotient : (den + num - 1) / num ≤ 10 ^ w := by omega
    have covered : den ≤ num * 10 ^ w := by
      have scaled : num * ((den + num - 1) / num) ≤ num * 10 ^ w := Nat.mul_le_mul_left _ quotient
      rw [Nat.mul_add] at rounded
      omega
    rw [zpow_neg, zpow_natCast, inv_le_iff_one_le_mul₀ (by positivity), div_mul_eq_mul_div,
      le_div_iff₀ den', one_mul]
    exact_mod_cast covered

theorem rounds_of_onGrid? {m s c : ℕ} {power : ℤ} (h : onGrid? m s power = some c) :
    Rounds m s (c * 10 ^ power) := by
  have read {c : ℕ} (h : (Interval.around m s).contains (inQuarters c power s) = true) :
      Rounds m s (c * 10 ^ power) := by
    rw [Interval.contains_iff (inQuarters_den_pos c power s), value_inQuarters] at h
    exact h
  unfold onGrid? at h
  dsimp only at h
  split at h
  · rename_i first second
    cases h
    split
    · exact read first
    · exact read second
  · rename_i first _
    cases h
    exact read first
  · rename_i _ second
    cases h
    exact read second
  · cases h

theorem inQuarters_num_pos {c : ℕ} (positive : 0 < c) (power : ℤ) (s : ℕ) :
    0 < (inQuarters c power s).num := by
  unfold inQuarters
  generalize 1076 = k
  split
  · exact Nat.mul_pos (Nat.mul_pos positive (natPow_pos (by decide) _)) (natPow_pos (by decide) _)
  · exact Nat.mul_pos positive (natPow_pos (by decide) _)

/-- A grid that is finer than a quarter of the last place has a point that reads back. -/
theorem onGrid?_ne_none {m s : ℕ} {power : ℤ} (positive : 0 < m)
    (fine : (10 : ℚ) ^ power * quarters / 2 ^ s < 1) : onGrid? m s power ≠ none := by
  have num : 0 < (inQuarters 1 power s).num := inQuarters_num_pos Nat.one_pos power s
  have den : (0 : ℚ) < (inQuarters 1 power s).den := by
    exact_mod_cast inQuarters_den_pos 1 power s
  have step := value_inQuarters 1 power s
  rw [Nat.cast_one, one_mul, Ratio.value] at step
  have value : (Interval.around m s).value = 4 * m := rfl
  generalize hlow : (Interval.around m s).value * (inQuarters 1 power s).den /
    (inQuarters 1 power s).num = low
  have point : (inQuarters low power s).value =
      low * ((inQuarters 1 power s).num / (inQuarters 1 power s).den) := by
    rw [value_inQuarters, step, mul_assoc, mul_div_assoc]
  -- the lower neighbour is less than one step below the value
  have below : (inQuarters low power s).value ≤ 4 * m := by
    rw [point, ← mul_div_assoc, div_le_iff₀ den]
    rw [← hlow, value]
    exact_mod_cast Nat.div_mul_le_self _ _
  have near : (4 * m : ℚ) < (inQuarters low power s).value + 1 := by
    have next : 4 * m * (inQuarters 1 power s).den < (inQuarters 1 power s).num * (low + 1) := by
      rw [← hlow, value]
      exact Nat.lt_mul_div_succ _ num
    have next : (4 * m : ℚ) <
        (low + 1) * ((inQuarters 1 power s).num / (inQuarters 1 power s).den) := by
      rw [← mul_div_assoc, lt_div_iff₀ den, mul_comm (low + 1 : ℚ)]
      exact_mod_cast next
    rw [add_mul, one_mul, ← point, step] at next
    linarith
  have reads : (Interval.around m s).contains (inQuarters low power s) = true := by
    rw [Interval.contains_iff (inQuarters_den_pos low power s)]
    have ends := Interval.around_ends m s
    have above : ((Interval.around m s).low : ℚ) < (inQuarters low power s).value := by
      have cast : ((Interval.around m s).low : ℚ) + 1 ≤ 4 * m := by
        have ends := ends.2.1
        have sum : (Interval.around m s).low + 1 ≤ 4 * m := by omega
        exact_mod_cast sum
      linarith
    have under : (inQuarters low power s).value < (Interval.around m s).high := by
      rw [ends.2.2.1]
      push_cast
      linarith
    unfold Interval.Has
    split
    · exact ⟨above.le, under.le⟩
    · exact ⟨above, under⟩
  unfold onGrid?
  dsimp only
  rw [hlow, reads]
  split
  · exact nofun
  · exact nofun
  · exact nofun
  · rename_i absent _
    cases absent

theorem firstGrid_eq {m s : ℕ} {power : ℤ} {steps k : ℕ} (lt : k < steps)
    (found : onGrid? m s (power - k) ≠ none) :
    ∃ c power', firstGrid m s power steps = ⟨c, power'⟩ ∧ onGrid? m s power' = some c := by
  induction steps generalizing power k with
  | zero => cases lt
  | succ steps ih =>
    rw [firstGrid]
    cases here : onGrid? m s power with
    | some c => exact ⟨c, power, rfl, here⟩
    | none =>
      cases k with
      | zero => simp [here] at found
      | succ k =>
        refine ih (Nat.lt_of_succ_lt_succ lt) ?_
        have step : power - 1 - k = power - (k + 1 : ℕ) := by omega
        rwa [step]

/-- Seventeen digits below its magnitude the grid is fine enough for a significand of 53 bits. -/
theorem fine_of_magnitude {m s n : ℕ} (positive : 0 < m) (lt : m < 2 * fractions) :
    (10 : ℚ) ^ (magnitude (m * Nat.pow 2 s) (Nat.pow 2 n) - (17 : ℕ)) * 2 ^ (n + 2) / 2 ^ s <
      1 := by
  have leading := magnitude_le (Nat.mul_pos positive (natPow_pos Nat.two_pos s))
    (natPow_pos Nat.two_pos n)
  generalize magnitude (m * Nat.pow 2 s) (Nat.pow 2 n) = power at *
  simp only [Nat.pow_eq, Nat.cast_mul, Nat.cast_pow, Nat.cast_ofNat] at leading
  have bound : (4 * m : ℚ) < 10 ^ 17 := by
    have small : 4 * m < 10 ^ 17 := by
      unfold fractions at lt
      omega
    exact_mod_cast small
  have unit : (0 : ℚ) < 2 ^ (n + 2) / 2 ^ s := by positivity
  calc (10 : ℚ) ^ (power - (17 : ℕ)) * 2 ^ (n + 2) / 2 ^ s
      = 10 ^ power * (2 ^ (n + 2) / 2 ^ s) / 10 ^ 17 := by
        rw [zpow_sub₀ (by norm_num), zpow_natCast]
        ring
    _ ≤ m * 2 ^ s / 2 ^ n * (2 ^ (n + 2) / 2 ^ s) / 10 ^ 17 := by gcongr
    _ = 4 * m / 10 ^ 17 := by
        rw [pow_add]
        field_simp
        norm_num
    _ < 1 := (div_lt_one (by norm_num)).mpr bound

/-- The shortest decimal reads back. -/
theorem rounds_shortest {m s : ℕ} (positive : 0 < m) (h : Normal m s) :
    Rounds m s (shortest m s).value := by
  have unit := quarters_eq
  unfold shortest
  -- the numeral must not be computed
  generalize 1074 = n at unit ⊢
  have fine := fine_of_magnitude (s := s) (n := n) positive h.lt
  rw [← unit] at fine
  obtain ⟨c, power, grid, found⟩ :=
    firstGrid_eq (by decide : 17 < 18) (onGrid?_ne_none positive fine)
  rw [value_trim, grid]
  exact rounds_of_onGrid? found

end Decimal

/-! ## Texts of numbers -/

namespace Double

theorem normal_significand (e : Fin 2047) (f : Fin fractions) :
    Decimal.Normal (significand e f) (scale e) := by
  have fraction := f.isLt
  unfold significand scale
  split
  · exact ⟨by omega, .inl (by omega)⟩
  · exact ⟨by omega, .inr (by omega)⟩

/-- The fields of a number are told by its significand and its scale. -/
theorem fields_unique {e e' : Fin 2047} {f f' : Fin fractions}
    (m : significand e f = significand e' f') (s : scale e = scale e') : e = e' ∧ f = f' := by
  have fraction := f.isLt
  have fraction' := f'.isLt
  unfold significand at m
  unfold scale at s
  rw [Fin.ext_iff, Fin.ext_iff]
  split at m <;> split at m <;> omega

theorem readDecimal_magnitudeChars (layout : NumberLayout) (e : Fin 2047) (f : Fin fractions) :
    readDecimal (magnitudeChars layout e f) =
      if significand e f = 0 then 0 else (Decimal.shortest (significand e f) (scale e)).value := by
  unfold magnitudeChars
  dsimp only
  split
  · have zero : readDigits ['0', '0'] = 0 := rfl
    have text : ['0', '.', '0'] = ['0'] ++ '.' :: ['0'] := rfl
    rw [readDecimal_plain (by decide), text, readPoint_point (by decide)]
    simp [zero]
  · exact layout.readDecimal_decimal _

/-- Magnitudes with one text are one magnitude. -/
theorem magnitudeChars_unique {layout : NumberLayout} {e e' : Fin 2047} {f f' : Fin fractions}
    (h : magnitudeChars layout e f = magnitudeChars layout e' f') : e = e' ∧ f = f' := by
  have value := congrArg readDecimal h
  rw [readDecimal_magnitudeChars, readDecimal_magnitudeChars] at value
  have normal := normal_significand e f
  have normal' := normal_significand e' f'
  rcases Nat.eq_zero_or_pos (significand e f) with zero | positive <;>
    rcases Nat.eq_zero_or_pos (significand e' f') with zero' | positive'
  · -- a significand that is nothing is not full, so the scales are the smallest one
    have scale := normal.full.resolve_right (by rw [zero]; decide)
    have scale' := normal'.full.resolve_right (by rw [zero']; decide)
    exact fields_unique (zero.trans zero'.symm) (scale.trans scale'.symm)
  · rw [if_pos zero, if_neg positive'.ne'] at value
    have more := (Decimal.rounds_shortest positive' normal').pos positive'
    exact absurd value more.ne
  · rw [if_neg positive.ne', if_pos zero'] at value
    have more := (Decimal.rounds_shortest positive normal).pos positive
    exact absurd value more.ne'
  · rw [if_neg positive.ne', if_neg positive'.ne'] at value
    have rounds := Decimal.rounds_shortest positive normal
    have rounds' := Decimal.rounds_shortest positive' normal'
    rw [← value] at rounds'
    obtain ⟨significand, scale⟩ := rounds.unique rounds' normal normal'
    exact fields_unique significand scale

theorem fractional_magnitudeChars (layout : NumberLayout) (e : Fin 2047) (f : Fin fractions) :
    NumberLayout.Fractional (magnitudeChars layout e f) := by
  unfold magnitudeChars
  dsimp only
  split
  · exact ⟨⟨'0', rfl, rfl⟩, .inl (by decide)⟩
  · exact layout.fractional_decimal _

/-- What the text of a number has after its sign. -/
def unsigned : Double → List Char
  | nan => ['n', 'a', 'n']
  | infinite _ => ['i', 'n', 'f']
  | finite _ e f => magnitudeChars .standard e f

def isNegative : Double → Bool
  | nan => false
  | infinite negative => negative
  | finite negative _ _ => negative

theorem toList_text (x : Double) :
    x.text.toList = (if x.isNegative then ['-'] else []) ++ x.unsigned := by
  have sign (negative : Bool) :
      (if negative then "-" else "").toList = if negative then ['-'] else [] := by
    cases negative <;> rfl
  cases x with
  | nan => rfl
  | infinite negative => cases negative <;> rfl
  | finite negative e f =>
    rw [text, String.toList_append, String.toList_ofList, sign]
    rfl

/-- After its sign a number begins with a digit, or with a letter if it is none. -/
theorem unsigned_head (x : Double) :
    ∃ c, x.unsigned.head? = some c ∧ (c.isDigit = true ∨ c ∈ ['n', 'i']) := by
  cases x with
  | nan => exact ⟨'n', rfl, .inr (by decide)⟩
  | infinite negative => exact ⟨'i', rfl, .inr (by decide)⟩
  | finite negative e f =>
    obtain ⟨c, head, digit⟩ := (fractional_magnitudeChars .standard e f).head
    exact ⟨c, head, .inl digit⟩

/-- The text of a number tells its sign. -/
theorem unsigned_of_text {x y : Double} (h : x.text = y.text) :
    x.isNegative = y.isNegative ∧ x.unsigned = y.unsigned := by
  have chars := congrArg String.toList h
  rw [toList_text, toList_text] at chars
  have plain (x : Double) : x.unsigned.head? ≠ some '-' := by
    obtain ⟨c, head, first⟩ := x.unsigned_head
    rw [head]
    rintro ⟨⟩
    revert first
    decide
  cases hx : x.isNegative <;> cases hy : y.isNegative <;>
    simp only [hx, hy, Bool.false_eq_true, ↓reduceIte, List.nil_append, List.singleton_append,
      List.cons.injEq, true_and] at chars
  · exact ⟨rfl, chars⟩
  · exact absurd (congrArg List.head? chars) (plain x)
  · exact absurd (congrArg List.head? chars.symm) (plain y)
  · exact ⟨rfl, chars⟩

/-- **Numbers of one text are one number.** -/
theorem text_injective : Function.Injective text := by
  intro x y h
  obtain ⟨sign, chars⟩ := unsigned_of_text h
  have letters {e : Fin 2047} {f : Fin fractions} {c : Char} {rest : List Char}
      (letter : c.isDigit = false) : magnitudeChars .standard e f ≠ c :: rest := by
    intro text
    obtain ⟨d, head, digit⟩ := (fractional_magnitudeChars .standard e f).head
    rw [text] at head
    obtain rfl := Option.some.inj head
    rw [letter] at digit
    cases digit
  cases x with
  | nan =>
    cases y with
    | nan => rfl
    | infinite => cases chars
    | finite => exact absurd chars.symm (letters rfl)
  | infinite negative =>
    cases y with
    | nan => cases chars
    | infinite negative' => exact congrArg infinite sign
    | finite => exact absurd chars.symm (letters rfl)
  | finite negative e f =>
    cases y with
    | nan => exact absurd chars (letters rfl)
    | infinite => exact absurd chars (letters rfl)
    | finite negative' e' f' =>
      obtain ⟨rfl, rfl⟩ := magnitudeChars_unique chars
      exact congrArg (finite · e f) sign

end Double

end WindowSql
