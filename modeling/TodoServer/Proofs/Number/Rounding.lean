import Mathlib.Algebra.Order.Field.Power
import Mathlib.Data.Rat.Cast.Order
import Mathlib.Tactic.FieldSimp
import Mathlib.Tactic.Linarith
import Mathlib.Tactic.Positivity
import Mathlib.Tactic.Ring
import TodoServer.Number.Decimal

/-!
# Rounding to finite doubles

A ratio below the middle between the greatest finite double and the next power of two is rounded to
a finite double.
-/

namespace TodoServer.Double

/-- The least ratio that is rounded to infinity. -/
def overflow : ℚ := 2 ^ (1024 : ℤ) - 2 ^ (970 : ℤ)

theorem overflow_lt : overflow < 2 ^ (1024 : ℤ) :=
  sub_lt_self _ (zpow_pos two_pos 970)

/-- It is half a unit above the greatest double of fifty-three bits. -/
theorem overflow_eq : overflow = (2 ^ 53 - 1 / 2) * 2 ^ (971 : ℤ) := by
  rw [overflow, show (2 : ℚ) ^ (1024 : ℤ) = 2 ^ (54 : ℤ) * 2 ^ (970 : ℤ) from
      zpow_add₀ two_ne_zero 54 970,
    show (2 : ℚ) ^ (971 : ℤ) = 2 ^ (1 : ℤ) * 2 ^ (970 : ℤ) from zpow_add₀ two_ne_zero 1 970]
  generalize (2 : ℚ) ^ (970 : ℤ) = unit
  ring

theorem overflow_pos : 0 < overflow := by
  rw [overflow_eq]
  exact mul_pos (by norm_num) (zpow_pos two_pos 971)

/-! ## Scaled ratios -/

theorem scaled_pos (num : Nat) {den : Nat} (positive : 0 < den) (q : Int) :
    0 < (scaled num den q).2 := by
  cases q with
  | ofNat k => exact Nat.mul_pos positive (Nat.pow_pos (by decide))
  | negSucc k => exact positive

/-- Scaling divides by a power of two. -/
theorem scaled_eq (num den : Nat) (q : Int) :
    ((scaled num den q).1 : ℚ) / (scaled num den q).2 = num / den / 2 ^ q := by
  cases q with
  | ofNat k =>
    simp only [scaled, Nat.pow_eq, Nat.cast_mul, Nat.cast_pow, Nat.cast_ofNat, Int.ofNat_eq_natCast,
      zpow_natCast, div_div]
  | negSucc k =>
    simp only [scaled, Nat.pow_eq, Nat.cast_mul, Nat.cast_pow, Nat.cast_ofNat, zpow_negSucc,
      div_inv_eq_mul]
    ring

theorem scaledTen_pos (num : Nat) {den : Nat} (positive : 0 < den) (k : Int) :
    0 < (scaledTen num den k).2 := by
  cases k with
  | ofNat k => exact Nat.mul_pos positive (Nat.pow_pos (by decide))
  | negSucc k => exact positive

/-- Scaling divides by a power of ten. -/
theorem scaledTen_eq (num den : Nat) (k : Int) :
    ((scaledTen num den k).1 : ℚ) / (scaledTen num den k).2 = num / den / 10 ^ k := by
  cases k with
  | ofNat k =>
    simp only [scaledTen, Nat.pow_eq, Nat.cast_mul, Nat.cast_pow, Nat.cast_ofNat,
      Int.ofNat_eq_natCast, zpow_natCast, div_div]
  | negSucc k =>
    simp only [scaledTen, Nat.pow_eq, Nat.cast_mul, Nat.cast_pow, Nat.cast_ofNat, zpow_negSucc,
      div_inv_eq_mul]
    ring

/-! ## The power of two of a ratio -/

section

variable {num den : Nat}

/-- The difference of the logarithms of a ratio is its own within one. -/
theorem ratio_bounds (above : num ≠ 0) (below : den ≠ 0) :
    (2 : ℚ) ^ ((Nat.log2 num : ℤ) - Nat.log2 den - 1) ≤ num / den ∧
      (num : ℚ) / den < 2 ^ ((Nat.log2 num : ℤ) - Nat.log2 den + 1) := by
  have numLow : (2 : ℚ) ^ (Nat.log2 num : ℤ) ≤ num := by
    exact_mod_cast Nat.log2_self_le above
  have numHigh : (num : ℚ) < 2 ^ ((Nat.log2 num : ℤ) + 1) := by
    exact_mod_cast Nat.lt_log2_self (n := num)
  have denLow : (2 : ℚ) ^ (Nat.log2 den : ℤ) ≤ den := by
    exact_mod_cast Nat.log2_self_le below
  have denHigh : (den : ℚ) < 2 ^ ((Nat.log2 den : ℤ) + 1) := by
    exact_mod_cast Nat.lt_log2_self (n := den)
  have positive : (0 : ℚ) < den := by exact_mod_cast Nat.pos_of_ne_zero below
  constructor
  · rw [le_div_iff₀ positive]
    calc (2 : ℚ) ^ ((Nat.log2 num : ℤ) - Nat.log2 den - 1) * den
      _ ≤ 2 ^ ((Nat.log2 num : ℤ) - Nat.log2 den - 1) * 2 ^ ((Nat.log2 den : ℤ) + 1) := by gcongr
      _ = 2 ^ (Nat.log2 num : ℤ) := by rw [← zpow_add₀ two_ne_zero]; congr 1; ring
      _ ≤ num := numLow
  · rw [div_lt_iff₀ positive]
    calc (num : ℚ)
      _ < 2 ^ ((Nat.log2 num : ℤ) + 1) := numHigh
      _ = 2 ^ ((Nat.log2 num : ℤ) - Nat.log2 den + 1) * 2 ^ (Nat.log2 den : ℤ) := by
        rw [← zpow_add₀ two_ne_zero]; congr 1; ring
      _ ≤ 2 ^ ((Nat.log2 num : ℤ) - Nat.log2 den + 1) * den := by gcongr

/-- Whether a scaled ratio has a quotient below a bound. -/
theorem scaled_quotient_lt (num : Nat) (positive : 0 < den) (q : Int) (bound : Nat) :
    (scaled num den q).1 / (scaled num den q).2 < bound ↔ (num : ℚ) / den < bound * 2 ^ q := by
  have pos := scaled_pos num positive q
  have cast : (0 : ℚ) < (scaled num den q).2 := by exact_mod_cast pos
  rw [Nat.div_lt_iff_lt_mul pos, ← div_lt_iff₀ (by positivity), ← scaled_eq, div_lt_iff₀ cast]
  exact_mod_cast Iff.rfl

/-- Unless it would be below the least one, the power of a ratio is the one that leaves exactly
fifty-three whole bits. -/
theorem exists_powerFor_eq_max (above : num ≠ 0) (below : den ≠ 0) :
    ∃ power : ℤ, powerFor num den = max (-1074) power ∧
      (num : ℚ) / den < 2 ^ (power + 53) ∧ (2 : ℚ) ^ (power + 52) ≤ num / den := by
  obtain ⟨low, high⟩ := ratio_bounds above below
  rw [powerFor]
  generalize (Nat.log2 num : ℤ) - Nat.log2 den = bits at *
  have quotient := scaled_quotient_lt num (Nat.pos_of_ne_zero below) (bits - 52) (Nat.pow 2 52)
  have unit : ((Nat.pow 2 52 : Nat) : ℚ) * 2 ^ (bits - 52) = 2 ^ bits := by
    rw [Nat.pow_eq, Nat.cast_pow, Nat.cast_ofNat, ← zpow_natCast, ← zpow_add₀ two_ne_zero]
    congr 1
    push_cast
    ring
  rw [unit] at quotient
  simp only
  split
  · next short =>
    refine ⟨bits - 52 - 1, rfl, ?_, ?_⟩
    · rw [show bits - 52 - 1 + 53 = bits by ring]
      exact quotient.mp short
    · rw [show bits - 52 - 1 + 52 = bits - 1 by ring]
      exact low
  · next long =>
    refine ⟨bits - 52, rfl, ?_, ?_⟩
    · rw [show bits - 52 + 53 = bits + 1 by ring]
      exact high
    · rw [show bits - 52 + 52 = bits by ring]
      exact not_lt.mp (mt quotient.mpr long)

/-- A ratio has at most fifty-three whole bits in units of its power, and no fewer unless the power
is the least one. -/
theorem powerFor_bounds (above : num ≠ 0) (below : den ≠ 0) :
    (num : ℚ) / den < 2 ^ (powerFor num den + 53) ∧
      (powerFor num den = -1074 ∨ (2 : ℚ) ^ (powerFor num den + 52) ≤ num / den) := by
  obtain ⟨power, eq, fits, full⟩ := exists_powerFor_eq_max above below
  rw [eq]
  constructor
  · refine fits.trans_le (zpow_le_zpow_right₀ one_le_two ?_)
    omega
  · rcases max_choice (-1074) power with least | own
    · exact .inl least
    · exact .inr (own.symm ▸ full)

end

/-! ## Rounding -/

/-- A quotient more than a half below a bound is rounded to less than the bound. -/
theorem divideToEven_lt {num den bound : Nat} (less : 2 * num < (2 * bound - 1) * den) :
    divideToEven num den < bound := by
  have parts := Nat.div_add_mod' num den
  have cancel : ∀ q, q * den ≤ 2 * num → q < 2 * bound - 1 :=
    fun q most => Nat.lt_of_mul_lt_mul_right (most.trans_lt less)
  rw [divideToEven]
  split
  · next up =>
    have half : den ≤ 2 * (num % den) := by
      simp only [Bool.or_eq_true, Bool.and_eq_true, decide_eq_true_eq, beq_iff_eq] at up
      omega
    have := cancel (2 * (num / den) + 1) (by rw [Nat.add_mul, Nat.mul_assoc]; omega)
    omega
  · have := cancel (2 * (num / den)) (by rw [Nat.mul_assoc]; omega)
    omega

theorem isFinite_ofFields (negative : Bool) {magnitude : Nat} (small : magnitude < infinityBits) :
    (ofFields negative magnitude).isFinite = true := by
  have limit : infinityBits = 2047 * 2 ^ 52 := rfl
  have bits : (ofFields negative magnitude).magnitudeBits = magnitude := by
    rw [magnitudeBits, ofFields, UInt64.toNat_ofNat']
    cases negative <;> simp only [Nat.pow_eq, if_true, Bool.false_eq_true, if_false] <;> omega
  rw [isFinite, exponentField, bits, bne_iff_ne, Nat.pow_eq]
  omega

theorem isFinite_zero (negative : Bool) : (zero negative).isFinite = true :=
  isFinite_ofFields negative (by decide)

theorem ofRatio_of_ne_zero (negative : Bool) {num : Nat} (above : num ≠ 0) (den : Nat) :
    ofRatio negative num den = ofFields negative (min infinityBits
      ((powerFor num den + 1074).toNat * 2 ^ 52 +
        divideToEven (scaled num den (powerFor num den)).1
          (scaled num den (powerFor num den)).2)) := by
  rw [ofRatio, if_neg above]
  rfl

/-- A ratio below the overflow is rounded to a finite double. -/
theorem isFinite_ofRatio (negative : Bool) {num den : Nat} (below : den ≠ 0)
    (small : (num : ℚ) / den < overflow) : (ofRatio negative num den).isFinite = true := by
  by_cases above : num = 0
  · rw [ofRatio, if_pos above]
    exact isFinite_zero negative
  rw [ofRatio_of_ne_zero negative above]
  refine isFinite_ofFields negative (lt_of_le_of_lt (min_le_right _ _) ?_)
  have limit : infinityBits = 2047 * 2 ^ 52 := rfl
  obtain ⟨fits, full⟩ := powerFor_bounds above below
  generalize powerFor num den = q at *
  have positive : (0 : ℚ) < (scaled num den q).2 := by
    exact_mod_cast scaled_pos num (Nat.pos_of_ne_zero below) q
  have ratio := scaled_eq num den q
  generalize scaled num den q = fraction at *
  have unit : (0 : ℚ) < 2 ^ q := by positivity
  have low : q ≤ 971 := by
    rcases full with least | full
    · omega
    · have := (zpow_lt_zpow_iff_right₀ one_lt_two).mp (full.trans_lt (small.trans overflow_lt))
      omega
  rcases low.lt_or_eq with lower | rfl
  · -- Below the greatest power there is room for a quotient that is rounded up to all bits.
    have whole : fraction.1 < 2 ^ 53 * fraction.2 := by
      have : (fraction.1 : ℚ) < 2 ^ (53 : ℤ) * fraction.2 := by
        rw [← div_lt_iff₀ positive, ratio, div_lt_iff₀ unit, ← zpow_add₀ two_ne_zero, add_comm]
        exact fits
      exact_mod_cast this
    have rounded : divideToEven fraction.1 fraction.2 < 2 ^ 53 + 1 := divideToEven_lt (by omega)
    omega
  · have whole : 2 * fraction.1 < (2 * 2 ^ 53 - 1) * fraction.2 := by
      have : (fraction.1 : ℚ) < (2 ^ 53 - 1 / 2) * fraction.2 := by
        rw [← div_lt_iff₀ positive, ratio, div_lt_iff₀ unit]
        exact small.trans_eq overflow_eq
      have : ((2 * fraction.1 : ℕ) : ℚ) < ((2 * 2 ^ 53 - 1) * fraction.2 : ℕ) := by
        push_cast
        linarith
      exact_mod_cast this
    have rounded := divideToEven_lt whole
    omega

/-- A decimal below the overflow is read as a finite double. -/
theorem isFinite_ofDecimal (negative : Bool) {digits : Nat} {exponent : Int}
    (small : (digits : ℚ) * 10 ^ exponent < overflow) :
    (ofDecimal negative digits exponent).isFinite = true := by
  unfold ofDecimal
  split
  · exact isFinite_zero negative
  next some =>
  split
  · next large =>
    have one : (1 : ℚ) ≤ digits := by exact_mod_cast Nat.one_le_iff_ne_zero.mpr some
    have : (2 : ℚ) ^ (1024 : ℤ) < overflow :=
      calc (2 : ℚ) ^ (1024 : ℤ)
        _ ≤ 2 ^ (3 * 400 : ℤ) := zpow_le_zpow_right₀ one_le_two (by decide)
        _ = (2 ^ (3 : ℤ)) ^ (400 : ℤ) := zpow_mul 2 3 400
        _ ≤ 10 ^ (400 : ℤ) := zpow_le_zpow_left₀ (by decide) (by positivity) (by norm_num)
        _ ≤ 10 ^ exponent := zpow_le_zpow_right₀ (by norm_num) large.le
        _ ≤ digits * 10 ^ exponent := le_mul_of_one_le_left (by positivity) one
        _ < overflow := small
    exact absurd this overflow_lt.not_gt
  split
  · exact isFinite_zero negative
  cases exponent with
  | ofNat k =>
    refine isFinite_ofRatio negative one_ne_zero (lt_of_eq_of_lt ?_ small)
    simp
  | negSucc k =>
    refine isFinite_ofRatio negative (Nat.pow_pos (by decide)).ne' (lt_of_eq_of_lt ?_ small)
    simp [zpow_negSucc, div_eq_mul_inv]

end TodoServer.Double
