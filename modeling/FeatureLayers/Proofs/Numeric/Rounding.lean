import FeatureLayers.Proofs.Numeric.Shortest

namespace FeatureLayers.Double

theorem roundQuotient_eq {num den m : Nat} (positive : 0 < den) (above : 2 * (m * den) ≤ 2 * num + den)
    (below : 2 * num ≤ 2 * (m * den) + den)
    (odd : m % 2 = 1 → 2 * (m * den) < 2 * num + den ∧ 2 * num < 2 * (m * den) + den) :
    roundQuotient num den = m := by
  have parts : den * (num / den) + num % den = num := Nat.div_add_mod num den
  have rest : num % den < den := Nat.mod_lt num positive
  unfold roundQuotient
  dsimp only
  generalize num / den = floor at parts ⊢
  generalize num % den = left at parts rest ⊢
  have either : m = floor ∨ m = floor + 1 := by
    rcases Nat.lt_trichotomy m floor with less | same | more
    · have : (m + 1) * den ≤ floor * den := Nat.mul_le_mul_right den less
      rw [Nat.mul_comm den] at parts
      rw [Nat.add_mul, Nat.one_mul] at this
      omega
    · exact .inl same
    · rcases Nat.lt_or_ge (floor + 1) m with far | near
      · have : (floor + 2) * den ≤ m * den := Nat.mul_le_mul_right den far
        rw [Nat.mul_comm den] at parts
        rw [Nat.add_mul] at this
        omega
      · exact .inr (by omega)
  rw [Nat.mul_comm den] at parts
  rcases either with rfl | rfl
  · generalize m * den = product at *
    grind
  · rw [Nat.add_mul, Nat.one_mul] at above below odd
    generalize floor * den = product at *
    grind

variable {x : Double}

theorem magnitude_eq (x : Double) : x.magnitude = x.exponent * Nat.pow 2 52 + x.significand := by
  have size : Nat.pow 2 52 = 4503599627370496 := by decide
  unfold exponent significand
  rw [size]
  split <;> omega

def lowGap (x : Double) : Nat := if x.significand = Nat.pow 2 52 && x.exponent != 0 then 1 else 2

/-- A ratio of units of the format that lies in the interval of the number. -/
structure Rounds (x : Double) (units den : Nat) : Prop where
  least : (4 * x.significand - x.lowGap) * (den * Nat.pow 2 x.exponent) ≤ 4 * units
  most : 4 * units ≤ (4 * x.significand + 2) * (den * Nat.pow 2 x.exponent)
  strict : x.significand % 2 = 1 →
    (4 * x.significand - x.lowGap) * (den * Nat.pow 2 x.exponent) < 4 * units ∧
      4 * units < (4 * x.significand + 2) * (den * Nat.pow 2 x.exponent)

theorem rounds_of_contains {num den units : Nat} (counted : units = num * Nat.pow 2 1074)
    (inside : x.interval.contains num den = true) : x.Rounds units den := by
  have low : x.interval.low * den = (4 * x.significand - x.lowGap) * (den * Nat.pow 2 x.exponent) := by
    rw [Nat.mul_comm den, ← Nat.mul_assoc]
    rfl
  have high : x.interval.high * den = (4 * x.significand + 2) * (den * Nat.pow 2 x.exponent) := by
    rw [Nat.mul_comm den, ← Nat.mul_assoc]
    rfl
  have ratio : num * x.interval.den = 4 * units := by
    obtain ⟨unit, same⟩ : ∃ unit, unit = 1074 := ⟨_, rfl⟩
    rw [interval_den x (show unit + 2 = 1076 by omega), counted, ← same, Nat.pow_eq, Nat.pow_add,
      Nat.mul_comm (2 ^ unit), Nat.mul_left_comm]
  have closed : x.interval.closed = decide (x.significand % 2 = 0) := rfl
  simp only [Interval.contains, low, high, ratio, closed] at inside
  clear counted ratio
  split at inside
  · rename_i even
    simp only [Bool.and_eq_true, decide_eq_true_eq] at even inside
    exact ⟨inside.1, inside.2, fun odd => absurd even (by omega)⟩
  · simp only [Bool.and_eq_true, decide_eq_true_eq] at inside
    exact ⟨Nat.le_of_lt inside.1, Nat.le_of_lt inside.2, fun _ => inside⟩

section Dropped

variable {units den k : Nat}

theorem dropped_eq (positive : 0 < den) (least : 2 ^ 52 * (den * Nat.pow 2 k) ≤ units)
    (most : units < 2 ^ 53 * (den * Nat.pow 2 k)) : (units / den).log2 - 52 = k := by
  rw [Nat.pow_eq] at least most
  have low : 2 ^ (52 + k) ≤ units / den := by
    rw [Nat.le_div_iff_mul_le positive, Nat.pow_add, Nat.mul_assoc, Nat.mul_comm (2 ^ k)]
    exact least
  have high : units / den < 2 ^ (52 + k + 1) := by
    rw [Nat.div_lt_iff_lt_mul positive, Nat.add_right_comm, Nat.pow_add, Nat.mul_assoc, Nat.mul_comm (2 ^ k)]
    exact most
  have apart : units / den ≠ 0 := Nat.ne_of_gt (Nat.lt_of_lt_of_le (Nat.two_pow_pos _) low)
  rw [(Nat.log2_eq_iff apart).mpr ⟨low, high⟩, Nat.add_sub_cancel_left]

theorem dropped_eq_zero (positive : 0 < den) (most : units < 2 ^ 53 * den) : (units / den).log2 - 52 = 0 := by
  have high : units / den < 2 ^ 53 := (Nat.div_lt_iff_lt_mul positive).mpr most
  rcases Nat.eq_zero_or_pos (units / den) with zero | reached
  · rw [zero]
    rfl
  · have := (Nat.log2_lt (Nat.ne_of_gt reached)).mpr high
    omega

end Dropped

theorem normal_of_exponent (raised : x.exponent ≠ 0) : 2 ^ 52 ≤ x.significand := by
  unfold exponent at raised
  unfold significand
  split
  · rename_i small
    rw [Nat.div_eq_of_lt small] at raised
    exact absurd rfl raised
  · exact Nat.le_add_left ..

theorem lowGap_cases (x : Double) :
    (x.lowGap = 1 ∧ x.significand = 2 ^ 52 ∧ x.exponent ≠ 0) ∨
      (x.lowGap = 2 ∧ (x.exponent ≠ 0 → 2 ^ 52 < x.significand)) := by
  have normal := normal_of_exponent (x := x)
  simp only [lowGap, Nat.pow_eq]
  grind

namespace Rounds

variable {units den : Nat}

theorem near (rounds : x.Rounds units den) :
    2 * (x.significand * (den * Nat.pow 2 x.exponent)) ≤ 2 * units + den * Nat.pow 2 x.exponent ∧
    2 * units ≤ 2 * (x.significand * (den * Nat.pow 2 x.exponent)) + den * Nat.pow 2 x.exponent ∧
    (x.significand % 2 = 1 →
      2 * (x.significand * (den * Nat.pow 2 x.exponent)) < 2 * units + den * Nat.pow 2 x.exponent ∧
      2 * units < 2 * (x.significand * (den * Nat.pow 2 x.exponent)) + den * Nat.pow 2 x.exponent) := by
  obtain ⟨least, most, strict⟩ := rounds
  rw [Nat.sub_mul, Nat.mul_assoc] at least strict
  rw [Nat.add_mul, Nat.mul_assoc] at most strict
  generalize x.significand * (den * Nat.pow 2 x.exponent) = product at *
  generalize den * Nat.pow 2 x.exponent = bit at *
  rcases lowGap_cases x with ⟨gap, -⟩ | ⟨gap, -⟩ <;> rw [gap] at least strict <;> grind

theorem lt_next_power (rounds : x.Rounds units den) (positive : 0 < den) :
    units < 2 ^ 53 * (den * Nat.pow 2 x.exponent) := by
  have most := rounds.most
  have wide : 0 < den * Nat.pow 2 x.exponent := Nat.mul_pos positive (Nat.pow_pos (by decide))
  have product := Nat.mul_le_mul_right (den * Nat.pow 2 x.exponent) (Nat.le_sub_one_of_lt (significand_lt (x := x)))
  rw [Nat.add_mul, Nat.mul_assoc] at most
  generalize x.significand * (den * Nat.pow 2 x.exponent) = value at *
  generalize den * Nat.pow 2 x.exponent = bit at *
  omega

theorem kept_bits (rounds : x.Rounds units den) (positive : 0 < den)
    (reached : x.lowGap = 1 → 2 ^ 52 * (den * Nat.pow 2 x.exponent) ≤ units) :
    (units / den).log2 - 52 = x.exponent := by
  have below := rounds.lt_next_power positive
  by_cases raised : x.exponent = 0
  · rw [raised]
    rw [raised, Nat.pow_eq, Nat.pow_zero, Nat.mul_one] at below
    exact dropped_eq_zero positive below
  · apply dropped_eq positive _ below
    rcases lowGap_cases x with ⟨gap, -⟩ | ⟨gap, larger⟩
    · exact reached gap
    · have least := rounds.near.1
      have product := Nat.mul_le_mul_right (den * Nat.pow 2 x.exponent) (larger raised)
      generalize x.significand * (den * Nat.pow 2 x.exponent) = value at *
      generalize den * Nat.pow 2 x.exponent = bit at *
      omega

theorem rounded_eq_magnitude (rounds : x.Rounds units den) (positive : 0 < den) :
    ((units / den).log2 - 52) * Nat.pow 2 52 +
      roundQuotient units (den * Nat.pow 2 ((units / den).log2 - 52)) = x.magnitude := by
  by_cases reached : x.lowGap = 1 → 2 ^ 52 * (den * Nat.pow 2 x.exponent) ≤ units
  · obtain ⟨above, below, odd⟩ := rounds.near
    have wide : 0 < den * Nat.pow 2 x.exponent := Nat.mul_pos positive (Nat.pow_pos (by decide))
    rw [rounds.kept_bits positive reached, roundQuotient_eq wide above below odd, magnitude_eq]
  · -- The number is a power of two and the ratio lies below it, where numbers have one bit more.
    obtain ⟨gap, missed⟩ := Classical.not_imp.mp reached
    obtain ⟨-, power, raised⟩ : x.lowGap = 1 ∧ x.significand = 2 ^ 52 ∧ x.exponent ≠ 0 := by
      rcases lowGap_cases x with power | ⟨other, -⟩
      · exact power
      · exact absurd (gap.symm.trans other) (by decide)
    obtain ⟨k, next⟩ := Nat.exists_eq_succ_of_ne_zero raised
    have bit : den * Nat.pow 2 x.exponent = 2 * (den * Nat.pow 2 k) := by
      rw [next, Nat.pow_eq, Nat.pow_eq, Nat.pow_succ, Nat.mul_comm (2 ^ k), Nat.mul_left_comm]
    have wide : 0 < den * Nat.pow 2 k := Nat.mul_pos positive (Nat.pow_pos (by decide))
    have least := rounds.least
    rw [gap, power, bit] at least
    rw [bit] at missed
    have dropped : (units / den).log2 - 52 = k := by
      apply dropped_eq positive <;> omega
    have rounded : roundQuotient units (den * Nat.pow 2 k) = 2 ^ 53 := by
      apply roundQuotient_eq wide <;> omega
    rw [dropped, rounded, magnitude_eq, power, next]
    simp only [Nat.pow_eq]
    omega

end Rounds

/-- Every ratio in the interval of a number is rounded to the number. -/
theorem ofRatio_of_contains (finite : x.isFinite) {num den : Nat} (positive : 0 < den)
    (inside : x.interval.contains num den = true) (negative : Bool) :
    ofRatio negative num den = ofMagnitude negative x.magnitude := by
  obtain ⟨units, counted⟩ : ∃ units, units = num * Nat.pow 2 1074 := ⟨_, rfl⟩
  have below : x.magnitude ≤ infinityMagnitude := Nat.le_of_lt (of_decide_eq_true finite)
  unfold ofRatio
  rw [← counted]
  simp only [(rounds_of_contains counted inside).rounded_eq_magnitude positive]
  exact congrArg (ofMagnitude negative) (Nat.min_eq_left below)

end FeatureLayers.Double
