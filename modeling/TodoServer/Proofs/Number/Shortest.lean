import TodoServer.Proofs.Number.Rounding

/-!
# The shortest decimal of a double

The shortest decimal of a finite double has digits, and it is below the overflow. So it is read as a
finite double again.
-/

namespace TodoServer

namespace Decimal

/-- The value of a decimal. -/
def value (d : Decimal) : ℚ := d.digits * 10 ^ d.exponent

/-- Zeros at the end do not matter. -/
theorem value_trimZeros (fuel : Nat) (d : Decimal) : (d.trimZeros fuel).value = d.value := by
  induction fuel generalizing d with
  | zero => rfl
  | succ fuel ih =>
    rw [trimZeros]
    split
    · next zero =>
      have digits : (d.digits : ℚ) = (d.digits / 10 : ℕ) * 10 := by
        exact_mod_cast (Nat.div_mul_cancel (Nat.dvd_of_mod_eq_zero zero.2)).symm
      rw [ih, value, value, digits, zpow_add_one₀ (by norm_num)]
      ring
    · rfl

theorem digits_trimZeros (fuel : Nat) {d : Decimal} (some : d.digits ≠ 0) :
    (d.trimZeros fuel).digits ≠ 0 := by
  induction fuel generalizing d with
  | zero => exact some
  | succ fuel ih =>
    rw [trimZeros]
    split
    · next zero =>
      have : d.digits / 10 ≠ 0 := by omega
      exact ih this
    · exact some

end Decimal

namespace Double

/-! ## Magnitudes -/

/-- The magnitude of a finite double. -/
def magnitude (d : Double) : ℚ := d.significand * 2 ^ d.power

section

variable (d : Double)

theorem significand_lt : d.significand < 2 ^ 53 := by
  have fraction : d.fractionField < Nat.pow 2 52 := Nat.mod_lt _ (Nat.pow_pos (by decide))
  rw [Nat.pow_eq] at fraction
  rw [significand, Nat.pow_eq]
  split <;> omega

theorem significand_ne_zero {d : Double} (some : d.magnitudeBits ≠ 0) : d.significand ≠ 0 := by
  rw [significand]
  split
  · next subnormal =>
    have parts := Nat.div_add_mod d.magnitudeBits (Nat.pow 2 52)
    rw [exponentField] at subnormal
    rw [subnormal] at parts
    rw [fractionField]
    omega
  · exact (Nat.add_pos_left (Nat.pow_pos (by decide)) _).ne'

theorem exponentField_lt {d : Double} (finite : d.isFinite = true) : d.exponentField < 2047 := by
  have bits : d.magnitudeBits < 2 ^ 63 := Nat.mod_lt _ (by decide)
  have other : d.exponentField ≠ 2047 := bne_iff_ne.mp finite
  rw [exponentField, Nat.pow_eq] at *
  omega

theorem power_le {d : Double} (finite : d.isFinite = true) : d.power ≤ 971 := by
  have field := exponentField_lt finite
  rw [power]
  split <;> omega

theorem power_ge : -1074 ≤ d.power := by
  rw [power]
  split <;> omega

/-- Half a unit above the magnitude lies no ratio beyond the overflow, and the overflow only above
an odd significand. -/
theorem magnitude_add_half_le {d : Double} (finite : d.isFinite = true) :
    d.magnitude + 2 ^ d.power / 2 ≤ overflow ∧
      (d.significand % 2 = 0 → d.magnitude + 2 ^ d.power / 2 < overflow) := by
  have unit : (0 : ℚ) < 2 ^ d.power := by positivity
  have larger : (2 : ℚ) ^ d.power ≤ 2 ^ (971 : ℤ) :=
    zpow_le_zpow_right₀ one_le_two (power_le finite)
  have whole : d.magnitude + 2 ^ d.power / 2 = (d.significand + 1 / 2) * 2 ^ d.power := by
    rw [magnitude]
    ring
  have below := d.significand_lt
  rw [whole, overflow_eq]
  generalize (2 : ℚ) ^ (971 : ℤ) = top at *
  constructor
  · have most : (d.significand : ℚ) + 1 ≤ 2 ^ 53 := by exact_mod_cast below
    exact mul_le_mul (by linarith) larger unit.le (by norm_num)
  · intro even
    have most : (d.significand : ℚ) + 2 ≤ 2 ^ 53 := by
      exact_mod_cast (by omega : d.significand + 2 ≤ 2 ^ 53)
    exact mul_lt_mul (by linarith) larger unit (by norm_num)

/-! ## The interval of a double -/

/-- What the interval of a double stands for: the magnitude, and at least a quarter of a unit below
it and half a unit above it. -/
structure Spans (num den low high : Nat) : Prop where
  positive : 0 < den
  magnitude : (num : ℚ) / den = d.magnitude
  below : (2 : ℚ) ^ d.power / 4 ≤ low / den
  above : (high : ℚ) / den = 2 ^ d.power / 2

theorem interval_eq : ∃ unit den : Nat, 0 < den ∧ (unit : ℚ) / den = 2 ^ d.power / 4 ∧
    d.interval = (4 * d.significand * unit, den,
      if d.fractionField = 0 ∧ 1 < d.exponentField then unit else 2 * unit, 2 * unit) := by
  unfold interval
  cases d.power with
  | ofNat k => exact ⟨Nat.pow 2 k, 4, by decide, by simp, rfl⟩
  | negSucc k =>
    refine ⟨1, 4 * Nat.pow 2 (k + 1), Nat.mul_pos (by decide) (Nat.pow_pos (by decide)), ?_, rfl⟩
    simp only [zpow_negSucc, Nat.pow_eq, Nat.cast_mul, Nat.cast_pow, Nat.cast_ofNat, Nat.cast_one]
    ring

theorem spans_interval :
    d.Spans d.interval.1 d.interval.2.1 d.interval.2.2.1 d.interval.2.2.2 := by
  obtain ⟨unit, den, positive, quarter, eq⟩ := d.interval_eq
  rw [eq]
  refine ⟨positive, ?_, ?_, ?_⟩
  · push_cast
    rw [mul_div_assoc, quarter, Double.magnitude]
    ring
  · simp only
    split
    · exact quarter.ge
    · have : (0 : ℚ) < 2 ^ d.power := by positivity
      push_cast
      rw [mul_div_assoc, quarter]
      linarith
  · push_cast
    rw [mul_div_assoc, quarter]
    ring

end

/-! ## Points of a grid -/

/-- The point nearest to a fraction among its neighbours on the grid of whole numbers, if it lies
less than some distance away, or just so far in the closed case. -/
def neighbour? (n m low high : Nat) (closed : Bool) : Option Nat :=
  let below := n / m
  let above := below + 1
  let offBelow := n - below * m
  let offAbove := above * m - n
  let fitsBelow := below ≠ 0 && (offBelow < low || (closed && offBelow == low))
  let fitsAbove := offAbove < high || (closed && offAbove == high)
  if fitsBelow && fitsAbove then
    if offBelow < offAbove || (offBelow == offAbove && below % 2 == 0) then some below
    else some above
  else if fitsBelow then some below
  else if fitsAbove then some above
  else none

theorem gridPoint?_eq (d : Double) (k : Int) : d.gridPoint? k =
    neighbour? (scaledTen d.interval.1 d.interval.2.1 k).1
      (scaledTen d.interval.1 d.interval.2.1 k).2
      (scaledTen d.interval.2.2.1 d.interval.2.1 k).1
      (scaledTen d.interval.2.2.2 d.interval.2.1 k).1 (d.significand % 2 == 0) :=
  rfl

section

variable {n m low high : Nat} {closed : Bool}

theorem neighbour?_bounds {p : Nat} (away : 0 < high)
    (found : neighbour? n m low high closed = some p) :
    p ≠ 0 ∧ p * m ≤ n + high ∧ (closed = false → p * m < n + high) := by
  have least := Nat.div_mul_le_self n m
  have below (some : n / m ≠ 0) : n / m ≠ 0 ∧ n / m * m ≤ n + high ∧
      (closed = false → n / m * m < n + high) :=
    ⟨some, by omega, fun _ => by omega⟩
  have above (fits : ((n / m + 1) * m - n < high ||
      (closed && (n / m + 1) * m - n == high)) = true) :
      n / m + 1 ≠ 0 ∧ (n / m + 1) * m ≤ n + high ∧
        (closed = false → (n / m + 1) * m < n + high) := by
    simp only [Bool.or_eq_true, Bool.and_eq_true, decide_eq_true_eq, beq_iff_eq] at fits
    refine ⟨Nat.succ_ne_zero _, by omega, ?_⟩
    rintro rfl
    simp only [Bool.false_eq_true, false_and, or_false] at fits
    omega
  unfold neighbour? at found
  simp only [Bool.and_eq_true, ne_eq, decide_not, Bool.not_eq_true'] at found
  split at found
  · next both =>
    split at found
    · cases found
      exact below (of_decide_eq_false both.1.1)
    · cases found
      exact above both.2
  · split at found
    · next fits =>
      cases found
      exact below (of_decide_eq_false fits.1)
    · split at found
      · next fits =>
        cases found
        exact above fits
      · cases found

/-- Neighbours less than some distance apart are not both missed. -/
theorem isSome_neighbour? (positive : 0 < m) (reached : m ≤ n) (fine : m ≤ low) :
    (neighbour? n m low high closed).isSome = true := by
  have some : n / m ≠ 0 := (Nat.div_pos reached positive).ne'
  have near : n - n / m * m < low := by
    have rest := Nat.mod_lt n positive
    have parts := Nat.div_add_mod' n m
    omega
  unfold neighbour?
  simp only [some, near, decide_true, ne_eq, not_false_eq_true, Bool.true_or, Bool.true_and,
    if_true]
  split
  · split <;> rfl
  · rfl

end

section

variable {d : Double}

/-- What a double spans, in units of a grid. -/
theorem Spans.scaledTen {num den low high : Nat} (spans : d.Spans num den low high) (k : Int) :
    0 < (scaledTen num den k).2 ∧
      ((scaledTen num den k).1 : ℚ) = d.magnitude / 10 ^ k * (scaledTen num den k).2 ∧
      (2 : ℚ) ^ d.power / 4 / 10 ^ k * (scaledTen num den k).2 ≤ (scaledTen low den k).1 ∧
      ((scaledTen high den k).1 : ℚ) =
        2 ^ d.power / 2 / 10 ^ k * (scaledTen num den k).2 := by
  have same (a : Nat) : (Double.scaledTen a den k).2 = (Double.scaledTen num den k).2 := by
    cases k <;> rfl
  have positive := scaledTen_pos num spans.positive k
  have cast : (0 : ℚ) < (Double.scaledTen num den k).2 := by exact_mod_cast positive
  have parts (a : Nat) : ((Double.scaledTen a den k).1 : ℚ) =
      a / den / 10 ^ k * (Double.scaledTen num den k).2 := by
    rw [← scaledTen_eq, same, div_mul_cancel₀ _ cast.ne']
  have below := spans.below
  refine ⟨positive, ?_, ?_, ?_⟩
  · rw [parts, spans.magnitude]
  · rw [parts]
    gcongr
  · rw [parts, spans.above]

variable {k : Int}

/-- A point of a grid is a positive multiple of its unit, and it lies at most half a unit of the
double above the magnitude, or less if the significand is odd. -/
theorem gridPoint?_bounds {p : Nat} (found : d.gridPoint? k = some p) :
    p ≠ 0 ∧ (p : ℚ) * 10 ^ k ≤ d.magnitude + 2 ^ d.power / 2 ∧
      (d.significand % 2 ≠ 0 → (p : ℚ) * 10 ^ k < d.magnitude + 2 ^ d.power / 2) := by
  have grid : (0 : ℚ) < 10 ^ k := by positivity
  have unit : (0 : ℚ) < 2 ^ d.power := by positivity
  rw [gridPoint?_eq] at found
  obtain ⟨positive, num, -, high⟩ := d.spans_interval.scaledTen k
  generalize (scaledTen d.interval.1 d.interval.2.1 k).1 = n at *
  generalize (scaledTen d.interval.1 d.interval.2.1 k).2 = m at *
  generalize (scaledTen d.interval.2.2.2 d.interval.2.1 k).1 = highN at *
  have cast : (0 : ℚ) < m := by exact_mod_cast positive
  have away : 0 < highN := by
    have : (0 : ℚ) < highN := by
      rw [high]
      positivity
    exact_mod_cast this
  have scaled : ((n + highN : ℕ) : ℚ) / m * 10 ^ k = d.magnitude + 2 ^ d.power / 2 := by
    push_cast
    rw [num, high]
    field_simp
  obtain ⟨some, most, less⟩ := neighbour?_bounds away found
  rw [← scaled]
  refine ⟨some, ?_, fun odd => ?_⟩
  · have : (p : ℚ) ≤ ((n + highN : ℕ) : ℚ) / m := by
      rw [le_div_iff₀ cast]
      exact_mod_cast most
    gcongr
  · have : (p : ℚ) < ((n + highN : ℕ) : ℚ) / m := by
      rw [lt_div_iff₀ cast]
      exact_mod_cast less (beq_eq_false_iff_ne.mpr odd)
    gcongr

/-- A grid that is fine enough has a point. -/
theorem isSome_gridPoint? (fine : (10 : ℚ) ^ k ≤ 2 ^ d.power / 4)
    (reached : (10 : ℚ) ^ k ≤ d.magnitude) : (d.gridPoint? k).isSome = true := by
  have grid : (0 : ℚ) < 10 ^ k := by positivity
  obtain ⟨positive, num, low, -⟩ := d.spans_interval.scaledTen k
  rw [gridPoint?_eq]
  refine isSome_neighbour? positive ?_ ?_
  · rw [← Nat.cast_le (α := ℚ), num]
    exact le_mul_of_one_le_left (Nat.cast_nonneg _) ((one_le_div grid).mpr reached)
  · rw [← Nat.cast_le (α := ℚ)]
    refine le_trans ?_ low
    exact le_mul_of_one_le_left (Nat.cast_nonneg _) ((one_le_div grid).mpr fine)

end

/-! ## The first grid -/

/-- The decimal logarithm of two is a little less than `0.30103`: the difference does not show
within the range of doubles. -/
theorem ten_zpow_le {b : Int} (low : -1200 < b) (high : b < 1200) :
    (10 : ℚ) ^ (b * 30103 / 100000 - 1) ≤ 2 ^ b := by
  have powers : ∀ n < 1200, 10 ^ (n * 30103 / 100000) ≤ 10 * 2 ^ n ∧
      2 ^ n ≤ 10 ^ ((n * 30103 + 99999) / 100000) := by decide +kernel
  obtain ⟨n, rfl | rfl⟩ := b.eq_nat_or_neg
  · have own : (10 : ℚ) ^ (n * 30103 / 100000) ≤ 10 * 2 ^ n := by
      exact_mod_cast (powers n (by omega)).1
    rw [zpow_sub_one₀ (by norm_num), ← div_eq_mul_inv, div_le_iff₀' (by norm_num)]
    exact_mod_cast own
  · have own : (2 : ℚ) ^ n ≤ 10 ^ ((n * 30103 + 99999) / 100000) := by
      exact_mod_cast (powers n (by omega)).2
    have up : -(n : ℤ) * 30103 / 100000 - 1 ≤ -((n * 30103 + 99999) / 100000 : ℕ) := by omega
    calc (10 : ℚ) ^ (-(n : ℤ) * 30103 / 100000 - 1)
      _ ≤ 10 ^ (-((n * 30103 + 99999) / 100000 : ℕ) : ℤ) := zpow_le_zpow_right₀ (by norm_num) up
      _ = (10 ^ ((n * 30103 + 99999) / 100000))⁻¹ := by rw [zpow_neg, zpow_natCast]
      _ ≤ (2 ^ n)⁻¹ := by gcongr
      _ = 2 ^ (-(n : ℤ)) := by rw [zpow_neg, zpow_natCast]

/-- A ratio in the range of doubles is no less than the power of its first decimal digit. -/
theorem decimalExponent_le {num den : Nat} (above : num ≠ 0) (below : den ≠ 0)
    (low : (2 : ℚ) ^ (-1100 : ℤ) ≤ num / den) (high : (num : ℚ) / den < 2 ^ (1100 : ℤ)) :
    (10 : ℚ) ^ decimalExponent num den ≤ num / den := by
  have reaches (k : Int) : (scaledTen num den k).2 ≤ (scaledTen num den k).1 →
      (10 : ℚ) ^ k ≤ num / den := by
    intro reached
    have grid : (0 : ℚ) < 10 ^ k := by positivity
    have cast : (0 : ℚ) < (scaledTen num den k).2 := by
      exact_mod_cast scaledTen_pos num (Nat.pos_of_ne_zero below) k
    rw [← one_le_div grid, ← scaledTen_eq, one_le_div cast]
    exact_mod_cast reached
  obtain ⟨less, more⟩ := ratio_bounds above below
  have least : -1100 < (Nat.log2 num : ℤ) - Nat.log2 den + 1 :=
    (zpow_lt_zpow_iff_right₀ one_lt_two).mp (low.trans_lt more)
  have most : (Nat.log2 num : ℤ) - Nat.log2 den - 1 < 1100 :=
    (zpow_lt_zpow_iff_right₀ one_lt_two).mp (less.trans_lt high)
  unfold decimalExponent
  simp only [decide_eq_true_eq]
  split
  · next reached => exact reaches _ reached
  split
  · next reached => exact reaches _ reached
  split
  · next reached => exact reaches _ reached
  exact (ten_zpow_le (by omega) (by omega)).trans less

/-! ## The shortest decimal -/

/-- Some grid has a point if the last one has. -/
theorem shortestFrom_eq {d : Double} {count : Nat} {k : Int}
    (last : (d.gridPoint? (k - count)).isSome = true) :
    ∃ p k', d.shortestFrom count k = ⟨p, k'⟩ ∧ d.gridPoint? k' = some p := by
  induction count generalizing k with
  | zero =>
    obtain ⟨p, found⟩ := Option.isSome_iff_exists.mp last
    rw [Nat.cast_zero, sub_zero] at found
    exact ⟨p, k, by rw [shortestFrom, found]; rfl, found⟩
  | succ count ih =>
    rw [shortestFrom]
    cases found : d.gridPoint? k with
    | some p => exact ⟨p, k, rfl, found⟩
    | none =>
      refine ih ?_
      convert last using 3
      push_cast
      ring

section

variable {d : Double} (finite : d.isFinite = true) (some : d.magnitudeBits ≠ 0)

include some in
theorem power_le_magnitude : (2 : ℚ) ^ d.power ≤ d.magnitude := by
  have one : (1 : ℚ) ≤ d.significand := by
    exact_mod_cast Nat.one_le_iff_ne_zero.mpr (significand_ne_zero some)
  exact le_mul_of_one_le_left (by positivity) one

include finite in
theorem magnitude_lt : d.magnitude < overflow := by
  have unit : (0 : ℚ) < 2 ^ d.power := by positivity
  have half := (magnitude_add_half_le finite).1
  linarith

include finite some

theorem decimalExponent_interval_le :
    (10 : ℚ) ^ decimalExponent d.interval.1 d.interval.2.1 ≤ d.magnitude := by
  have spans := d.spans_interval
  have unit : (0 : ℚ) < 2 ^ d.power := by positivity
  have least := power_le_magnitude some
  have above : d.interval.1 ≠ 0 := by
    intro zero
    have none := spans.magnitude
    rw [zero, Nat.cast_zero, zero_div] at none
    linarith
  rw [← spans.magnitude] at least ⊢
  refine decimalExponent_le above spans.positive.ne' (le_trans ?_ least) ?_
  · have := d.power_ge
    exact zpow_le_zpow_right₀ one_le_two (by omega)
  · rw [spans.magnitude]
    exact (magnitude_lt finite).trans (overflow_lt.trans_le
      (zpow_le_zpow_right₀ one_le_two (by decide)))

/-- Seventeen digits are enough. -/
theorem isSome_gridPoint?_last :
    (d.gridPoint? (decimalExponent d.interval.1 d.interval.2.1 - (17 : ℕ))).isSome = true := by
  have unit : (0 : ℚ) < 2 ^ d.power := by positivity
  have reached := decimalExponent_interval_le finite some
  have few : (d.significand : ℚ) < 2 ^ 53 := by exact_mod_cast d.significand_lt
  generalize decimalExponent d.interval.1 d.interval.2.1 = k at *
  have finer : (10 : ℚ) ^ (k - (17 : ℕ)) = 10 ^ k / 10 ^ 17 := by
    rw [zpow_sub₀ (by norm_num), zpow_natCast]
  have most : (10 : ℚ) ^ k ≤ 2 ^ 53 * 2 ^ d.power := reached.trans (by rw [magnitude]; gcongr)
  have grid : (0 : ℚ) < 10 ^ k := by positivity
  refine isSome_gridPoint? ?_ ?_
  · rw [finer]
    linarith
  · rw [finer]
    linarith

/-- The shortest decimal of a finite double has digits and stays below the overflow. -/
theorem shortest_bounds : d.shortest.digits ≠ 0 ∧ d.shortest.value < overflow := by
  obtain ⟨p, k, eq, found⟩ := shortestFrom_eq (isSome_gridPoint?_last finite some)
  obtain ⟨digits, most, less⟩ := gridPoint?_bounds found
  obtain ⟨bound, inside⟩ := magnitude_add_half_le finite
  have below : (p : ℚ) * 10 ^ k < overflow := by
    by_cases even : d.significand % 2 = 0
    · exact most.trans_lt (inside even)
    · exact (less even).trans_le bound
  have shortest : d.shortest = (⟨p, k⟩ : Decimal).trimZeros 20 := by
    rw [Double.shortest, if_neg some]
    exact congrArg (Decimal.trimZeros 20) eq
  rw [shortest, Decimal.value_trimZeros]
  exact ⟨Decimal.digits_trimZeros 20 digits, below⟩

end

end Double

end TodoServer
