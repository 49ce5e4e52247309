import Mathlib.Data.Int.Log
import Mathlib.Data.Rat.Floor
import Mathlib.Tactic

/-!
# Rounding to binary floating point

The nearest number with `p` significant bits whose last bit is worth at least `2 ^ q`, and of two
that are equally near the one with an even significand. There is no largest number.
-/

namespace BinaryFloat

/-- The nearest integer, and of two that are equally near the even one. -/
def roundHalfEven (x : ℚ) : ℤ :=
  if x - ⌊x⌋ < 1 / 2 ∨ x - ⌊x⌋ = 1 / 2 ∧ ⌊x⌋ % 2 = 0 then ⌊x⌋ else ⌊x⌋ + 1

lemma abs_roundHalfEven_sub_le (x : ℚ) : |(roundHalfEven x : ℚ) - x| ≤ 1 / 2 := by
  have hle := Int.floor_le x
  have hlt := Int.lt_floor_add_one x
  unfold roundHalfEven
  split
  · rename_i hdown
    rw [abs_le]
    constructor
    · rcases hdown with h | ⟨h, -⟩ <;> linarith
    · linarith
  · rename_i hup
    push Not at hup
    rw [abs_le]
    push_cast
    constructor
    · linarith
    · linarith [hup.1]

@[simp] lemma roundHalfEven_intCast (k : ℤ) : roundHalfEven (k : ℚ) = k := by simp [roundHalfEven]

/-- The exponent of the last bit of a number near `x`. -/
def lastBit (p : ℕ) (q : ℤ) (x : ℚ) : ℤ := max (Int.log 2 |x| + 1 - p) q

def roundTo (p : ℕ) (q : ℤ) (x : ℚ) : ℚ :=
  roundHalfEven (x / 2 ^ lastBit p q x) * 2 ^ lastBit p q x

variable {p : ℕ} {q : ℤ} {x : ℚ}

lemma abs_roundTo_sub_le (p : ℕ) (q : ℤ) (x : ℚ) :
    |roundTo p q x - x| ≤ 2 ^ lastBit p q x / 2 := by
  have hpos : (0 : ℚ) < 2 ^ lastBit p q x := by positivity
  have herror := abs_roundHalfEven_sub_le (x / 2 ^ lastBit p q x)
  have hscale : roundTo p q x - x =
      ((roundHalfEven (x / 2 ^ lastBit p q x) : ℚ) - x / 2 ^ lastBit p q x) *
        2 ^ lastBit p q x := by
    unfold roundTo
    field_simp
  rw [hscale, abs_mul, abs_of_pos hpos]
  calc |(roundHalfEven (x / 2 ^ lastBit p q x) : ℚ) - x / 2 ^ lastBit p q x| * 2 ^ lastBit p q x
      ≤ 1 / 2 * 2 ^ lastBit p q x := mul_le_mul_of_nonneg_right herror hpos.le
    _ = 2 ^ lastBit p q x / 2 := by ring

/-- Above the smallest exponent the error is a fixed part of the number. -/
lemma abs_roundTo_sub_le_mul (hx : (2 : ℚ) ^ (q + p - 1) ≤ x) :
    |roundTo p q x - x| ≤ x / 2 ^ p := by
  have hpos : 0 < x := lt_of_lt_of_le (by positivity) hx
  have hlog : q + p - 1 ≤ Int.log 2 x := by
    rw [← Int.zpow_le_iff_le_log one_lt_two hpos]
    exact_mod_cast hx
  have hlast : lastBit p q x = Int.log 2 x + 1 - p := by
    unfold lastBit
    rw [abs_of_pos hpos]
    exact max_eq_left (by omega)
  have hpow : (2 : ℚ) ^ Int.log 2 x ≤ x := by
    have h := Int.zpow_log_le_self (b := 2) one_lt_two hpos
    exact_mod_cast h
  calc |roundTo p q x - x| ≤ 2 ^ lastBit p q x / 2 := abs_roundTo_sub_le p q x
    _ = 2 ^ Int.log 2 x / 2 ^ p := by
      rw [hlast, zpow_sub₀ two_ne_zero, zpow_add₀ two_ne_zero, zpow_one, zpow_natCast]
      ring
    _ ≤ x / 2 ^ p := by gcongr

/-- A number whose bits all fit is not changed. -/
lemma roundTo_eq_self {k : ℤ} {e : ℤ} (hx : x = k * 2 ^ e) (he : lastBit p q x ≤ e) :
    roundTo p q x = x := by
  obtain ⟨n, hn⟩ := Int.le.dest he
  have hsplit : (2 : ℚ) ^ e = 2 ^ n * 2 ^ lastBit p q x := by
    rw [← hn, zpow_add₀ two_ne_zero, zpow_natCast, mul_comm]
  have hint : x / 2 ^ lastBit p q x = ((k * 2 ^ n : ℤ) : ℚ) := by
    rw [div_eq_iff (by positivity)]
    push_cast
    rw [mul_assoc, ← hsplit]
    exact hx
  unfold roundTo
  rw [hint, roundHalfEven_intCast, ← hint]
  field_simp

/-- Rounding to binary64; overflow, above `2 ^ 1024`, is left out. -/
def round64 (x : ℚ) : ℚ := roundTo 53 (-1074) x

@[simp] lemma round64_zero : round64 0 = 0 := by simp [round64, roundTo, roundHalfEven]

/-- An integer of at most 53 bits times a power of two is not changed. -/
lemma round64_eq_self {k e : ℤ} (hx : x = k * 2 ^ e) (hk : |k| < 2 ^ 53) (he : -1074 ≤ e) :
    round64 x = x := by
  by_cases hzero : x = 0
  · rw [hzero, round64_zero]
  · refine roundTo_eq_self hx (max_le ?_ he)
    have hpow : (0 : ℚ) < 2 ^ e := by positivity
    have hk' : |(k : ℚ)| < 2 ^ 53 := by exact_mod_cast hk
    have hlt : |x| < (2 : ℚ) ^ (53 + e) := by
      rw [hx, abs_mul, abs_of_pos hpow, zpow_add₀ two_ne_zero]
      exact mul_lt_mul_of_pos_right (by exact_mod_cast hk') hpow
    have hlog : Int.log 2 |x| < 53 + e := by
      rw [← Int.lt_zpow_iff_log_lt one_lt_two (abs_pos.mpr hzero)]
      exact_mod_cast hlt
    push_cast
    omega

lemma abs_round64_sub_le (hx : 1 / 2 ≤ x) : |round64 x - x| ≤ x / 2 ^ 53 := by
  refine abs_roundTo_sub_le_mul (le_trans ?_ hx)
  calc (2 : ℚ) ^ ((-1074 : ℤ) + (53 : ℕ) - 1) ≤ 2 ^ (-1 : ℤ) :=
        zpow_le_zpow_right₀ one_le_two (by norm_num)
    _ = 1 / 2 := by norm_num

end BinaryFloat
