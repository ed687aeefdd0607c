import FeatureLayers.Proofs.Numeric.Rounding

namespace FeatureLayers.Double

section Words

theorem magnitude_ofMagnitude (negative : Bool) {m : Nat} (fits : m < Nat.pow 2 63) :
    (ofMagnitude negative m).magnitude = m := by
  have size : Nat.pow 2 63 = 9223372036854775808 := by decide
  cases negative <;> simp [ofMagnitude, magnitude, UInt64.toNat_ofNat'] <;> omega

theorem negative_ofMagnitude (negative : Bool) {m : Nat} (fits : m < Nat.pow 2 63) :
    (ofMagnitude negative m).negative = negative := by
  have size : Nat.pow 2 63 = 9223372036854775808 := by decide
  cases negative <;> simp [ofMagnitude, Double.negative, UInt64.toNat_ofNat'] <;> omega

theorem ofMagnitude_self (x : Double) : ofMagnitude x.negative x.magnitude = x := by
  have size : Nat.pow 2 63 = 9223372036854775808 := by decide
  have word := x.bits.toNat_lt
  obtain ⟨bits⟩ := x
  apply congrArg Double.mk
  apply UInt64.toNat_inj.mp
  rw [UInt64.toNat_ofNat']
  unfold Double.negative magnitude
  split <;> simp_all <;> omega

theorem neg_ofMagnitude (negative : Bool) {m : Nat} (fits : m < Nat.pow 2 63) :
    (ofMagnitude negative m).neg = ofMagnitude (!negative) m := by
  rw [neg, negative_ofMagnitude negative fits, magnitude_ofMagnitude negative fits]

end Words

section Ratios

theorem pow_two_pos (n : Nat) : 0 < Nat.pow 2 n := Nat.pow_pos (by decide)

theorem roundQuotient_mul_right (num den : Nat) {scale : Nat} (positive : 0 < scale) :
    roundQuotient (num * scale) (den * scale) = roundQuotient num den := by
  have less (a b : Nat) : a * scale < b * scale ↔ a < b := Nat.mul_lt_mul_right positive
  simp only [roundQuotient, Nat.mul_div_mul_right _ _ positive, Nat.mul_mod_mul_right, ← Nat.mul_assoc, less]

theorem ofRatio_mul_right (negative : Bool) (num den : Nat) {scale : Nat} (positive : 0 < scale) :
    ofRatio negative (num * scale) (den * scale) = ofRatio negative num den := by
  have units (unit : Nat) : num * scale * unit = num * unit * scale := Nat.mul_right_comm ..
  simp only [ofRatio, units, Nat.mul_div_mul_right _ _ positive, Nat.mul_right_comm den scale,
    roundQuotient_mul_right _ _ positive]

/-- A ratio that has no more bits than a number keeps all of them. -/
theorem ofRatio_exact (negative : Bool) {num den m k : Nat} (positive : 0 < den) (least : 2 ^ 52 ≤ m)
    (most : m < 2 ^ 53) (range : k ≤ 2045) (counted : num * Nat.pow 2 1074 = m * (den * Nat.pow 2 k)) :
    ofRatio negative num den = ofMagnitude negative (k * Nat.pow 2 52 + m) := by
  have wide : 0 < den * Nat.pow 2 k := Nat.mul_pos positive (Nat.pow_pos (by decide))
  have dropped : (m * (den * Nat.pow 2 k) / den).log2 - 52 = k :=
    dropped_eq positive (Nat.mul_le_mul_right _ least) (Nat.mul_lt_mul_of_pos_right most wide)
  have rounded : roundQuotient (m * (den * Nat.pow 2 k)) (den * Nat.pow 2 k) = m :=
    roundQuotient_eq wide (by omega) (by omega) fun _ => by omega
  have bounded : k * Nat.pow 2 52 + m ≤ infinityMagnitude := by
    change k * 2 ^ 52 + m ≤ 0x7ff0000000000000
    omega
  simp only [ofRatio, counted, dropped, rounded]
  exact congrArg (ofMagnitude negative) (Nat.min_eq_left bounded)

end Ratios

structure Holds (x : Double) (n : Nat) : Prop where
  finite : x.isFinite
  natural : x.negative = false
  -- With `bits` for the constant, the power is not computed.
  units : ∀ bits, bits = 1074 → x.significand * Nat.pow 2 x.exponent = n * Nat.pow 2 bits

theorem fields_ofMagnitude (negative : Bool) {m k : Nat} (least : 2 ^ 52 ≤ m) (most : m < 2 ^ 53) (range : k ≤ 2045) :
    (ofMagnitude negative (k * Nat.pow 2 52 + m)).isFinite ∧
      (ofMagnitude negative (k * Nat.pow 2 52 + m)).negative = negative ∧
      (ofMagnitude negative (k * Nat.pow 2 52 + m)).exponent = k ∧
      (ofMagnitude negative (k * Nat.pow 2 52 + m)).significand = m := by
  rw [Nat.pow_eq]
  have fits : k * 2 ^ 52 + m < Nat.pow 2 63 := by
    change k * 2 ^ 52 + m < 2 ^ 63
    omega
  have finite : k * 2 ^ 52 + m < 0x7ff0000000000000 := by omega
  unfold isFinite exponent significand
  rw [magnitude_ofMagnitude negative fits, negative_ofMagnitude negative fits, Nat.pow_eq]
  refine ⟨decide_eq_true finite, rfl, ?_, ?_⟩
  · omega
  · split <;> omega

theorem holds_ofNat {n j : Nat} (small : n < 2 ^ 53) (range : j ≤ 64) : (ofNat (n * 2 ^ j)).Holds (n * 2 ^ j) := by
  rcases Nat.eq_zero_or_pos n with rfl | positive
  · rw [Nat.zero_mul]
    have empty : (ofNat 0).significand = 0 := by decide +kernel
    refine ⟨by decide +kernel, by decide +kernel, fun bits _ => ?_⟩
    rw [empty, Nat.zero_mul, Nat.zero_mul]
  · obtain ⟨unit, same⟩ : ∃ unit, unit = 1074 := ⟨_, rfl⟩
    have bits : n.log2 ≤ 52 := Nat.le_of_lt_succ ((Nat.log2_lt (Nat.ne_of_gt positive)).mpr small)
    have low : 2 ^ n.log2 ≤ n := Nat.log2_self_le (Nat.ne_of_gt positive)
    have high : n < 2 ^ (n.log2 + 1) := Nat.lt_log2_self
    have least : 2 ^ 52 ≤ n * 2 ^ (52 - n.log2) := by
      calc 2 ^ 52
        _ = 2 ^ n.log2 * 2 ^ (52 - n.log2) := by rw [← Nat.pow_add, Nat.add_sub_cancel' bits]
        _ ≤ n * 2 ^ (52 - n.log2) := Nat.mul_le_mul_right _ low
    have most : n * 2 ^ (52 - n.log2) < 2 ^ 53 := by
      calc n * 2 ^ (52 - n.log2)
        _ < 2 ^ (n.log2 + 1) * 2 ^ (52 - n.log2) := Nat.mul_lt_mul_of_pos_right high (Nat.two_pow_pos _)
        _ = 2 ^ 53 := by rw [← Nat.pow_add, Nat.add_right_comm, Nat.add_sub_cancel' bits]
    have counted : n * 2 ^ j * Nat.pow 2 1074 =
        n * 2 ^ (52 - n.log2) * (1 * Nat.pow 2 (n.log2 + j + (unit - 52))) := by
      rw [← same, Nat.pow_eq, Nat.pow_eq, Nat.one_mul, Nat.mul_assoc, Nat.mul_assoc, ← Nat.pow_add, ← Nat.pow_add]
      congr 2
      omega
    have within : n.log2 + j + (unit - 52) ≤ 2045 := by omega
    obtain ⟨finite, natural, exponent, significand⟩ := fields_ofMagnitude false least most within
    rw [ofNat, ofRatio_exact false Nat.one_pos least most within counted]
    refine ⟨finite, natural, ?_⟩
    rintro bits rfl
    rw [exponent, significand, counted, Nat.one_mul]

section Finite

variable {x : Double}

theorem isNaN_of_isFinite (finite : x.isFinite = true) : x.isNaN = false :=
  decide_eq_false (Nat.lt_asymm (of_decide_eq_true finite))

theorem isInfinite_of_isFinite (finite : x.isFinite = true) : x.isInfinite = false :=
  decide_eq_false (Nat.ne_of_lt (of_decide_eq_true finite))

end Finite

namespace Holds

variable {x y : Double} {n m : Nat}

theorem isZero_eq (holds : x.Holds n) (positive : 0 < n) : x.isZero = false := by
  obtain ⟨bits, width⟩ : ∃ bits, bits = 1074 := ⟨_, rfl⟩
  apply decide_eq_false
  intro zero
  have empty : x.significand * Nat.pow 2 x.exponent = 0 := by
    rw [significand, if_pos (by rw [zero]; exact pow_two_pos 52), zero, Nat.zero_mul]
  rw [holds.units bits width] at empty
  exact Nat.ne_of_gt (Nat.mul_pos positive (pow_two_pos bits)) empty

theorem natAbs_scaled (holds : x.Holds n) {bits : Nat} (width : bits = 1074) :
    x.scaled.natAbs = n * Nat.pow 2 bits := by
  rw [scaled, holds.natural, if_neg Bool.false_ne_true, Int.natAbs_natCast, holds.units bits width]

theorem mul_eq (left : x.Holds n) (right : y.Holds m) : x.mul y = ofRatio false (n * m) 1 := by
  obtain ⟨bits, width⟩ : ∃ bits, bits = 1074 := ⟨_, rfl⟩
  have square : Nat.pow 2 2148 = 1 * (Nat.pow 2 bits * Nat.pow 2 bits) := by
    rw [show 2148 = bits + bits by omega, Nat.one_mul, Nat.pow_eq, Nat.pow_eq, Nat.pow_add]
  unfold mul
  rw [isNaN_of_isFinite left.finite, isNaN_of_isFinite right.finite, isInfinite_of_isFinite left.finite,
    isInfinite_of_isFinite right.finite, left.natural, right.natural, left.natAbs_scaled width, right.natAbs_scaled width,
    square, Nat.mul_mul_mul_comm]
  exact ofRatio_mul_right false (n * m) 1 (Nat.mul_pos (pow_two_pos bits) (pow_two_pos bits))

theorem div_eq (left : x.Holds n) (right : y.Holds m) (positive : 0 < m) : x.div y = ofRatio false n m := by
  obtain ⟨bits, width⟩ : ∃ bits, bits = 1074 := ⟨_, rfl⟩
  unfold div
  rw [isNaN_of_isFinite left.finite, isNaN_of_isFinite right.finite, isInfinite_of_isFinite left.finite,
    isInfinite_of_isFinite right.finite, right.isZero_eq positive, left.natural, right.natural, left.natAbs_scaled width,
    right.natAbs_scaled width]
  exact ofRatio_mul_right false n m (pow_two_pos bits)

end Holds

end FeatureLayers.Double
