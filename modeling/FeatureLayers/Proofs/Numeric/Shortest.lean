import FeatureLayers.Numeric.Shortest
import Mathlib.Algebra.Group.Nat.Defs

namespace FeatureLayers.Double

namespace Interval

variable {i : Interval} {tie : Tie} {power : Int}

theorem onGrid_contained {digits : Nat} (found : i.onGrid tie power = some digits) :
    i.contains (digits * Nat.pow 10 power.toNat) (Nat.pow 10 (-power).toNat) = true := by
  unfold onGrid at found
  dsimp only at found
  generalize i.value * Nat.pow 10 (-power).toNat / (i.den * Nat.pow 10 power.toNat) = floor at found
  split at found
  · rename_i both
    obtain ⟨below, above⟩ := Bool.and_eq_true_iff.mp both
    have either : digits = floor ∨ digits = floor + 1 := by
      grind
    rcases either with rfl | rfl
    · exact below
    · exact above
  · split at found
    · rename_i below
      cases found
      exact below
    · split at found
      · rename_i above
        cases found
        exact above
      · cases found

theorem contains_zero (apart : 0 < i.low) {den : Nat} (positive : 0 < den) : i.contains 0 den = false := by
  have above : 0 < i.low * den := Nat.mul_pos apart positive
  simp only [contains, Nat.zero_mul]
  split
  · rw [decide_eq_false (Nat.not_le_of_lt above), Bool.false_and]
  · rw [decide_eq_false (Nat.not_lt_zero _), Bool.false_and]

theorem contains_between {num den : Nat} (above : i.low * den < num * i.den) (below : num * i.den < i.high * den) :
    i.contains num den = true := by
  simp only [contains]
  split
  · rw [decide_eq_true (Nat.le_of_lt above), decide_eq_true (Nat.le_of_lt below), Bool.and_true]
  · rw [decide_eq_true above, decide_eq_true below, Bool.and_true]

theorem onGrid_isSome (low : i.low < i.value) (high : i.value < i.high) (wide : 0 < i.den)
    (fine : i.den * Nat.pow 10 power.toNat + i.low * Nat.pow 10 (-power).toNat < i.high * Nat.pow 10 (-power).toNat) :
    (i.onGrid tie power).isSome := by
  have spaced : 0 < Nat.pow 10 (-power).toNat := Nat.pow_pos (by decide)
  have step : 0 < i.den * Nat.pow 10 power.toNat := Nat.mul_pos wide (Nat.pow_pos (by decide))
  have least := Nat.mul_lt_mul_of_pos_right low spaced
  have most := Nat.mul_lt_mul_of_pos_right high spaced
  have parts := Nat.div_add_mod (i.value * Nat.pow 10 (-power).toNat) (i.den * Nat.pow 10 power.toNat)
  have left := Nat.mod_lt (i.value * Nat.pow 10 (-power).toNat) step
  have point (n : Nat) : n * Nat.pow 10 power.toNat * i.den = i.den * Nat.pow 10 power.toNat * n := by
    rw [Nat.mul_comm i.den, Nat.mul_comm _ n, Nat.mul_assoc]
  unfold onGrid
  dsimp only
  generalize i.value * Nat.pow 10 (-power).toNat / (i.den * Nat.pow 10 power.toNat) = floor at *
  have lower := point floor
  have upper := point (floor + 1)
  rw [Nat.mul_add, Nat.mul_one] at upper
  split
  · split
    · rfl
    · split
      · rfl
      · cases tie <;> rfl
  · split
    · rfl
    · split
      · rfl
      · -- Both neighbours lie outside, so that the interval is no wider than the spacing.
        rename_i below above
        have under : ¬i.low * Nat.pow 10 (-power).toNat < floor * Nat.pow 10 power.toNat * i.den := fun inside =>
          below (contains_between inside (by omega))
        have beyond : ¬(floor + 1) * Nat.pow 10 power.toNat * i.den < i.high * Nat.pow 10 (-power).toNat := fun inside =>
          above (contains_between (by omega) inside)
        omega

/-- The search ends inside the interval when the last grid that it tries is fine enough. -/
theorem search_contained (low : i.low < i.value) (high : i.value < i.high) (wide : 0 < i.den) {steps : Nat}
    (fine : i.den * Nat.pow 10 (power - steps).toNat + i.low * Nat.pow 10 (-(power - steps)).toNat <
      i.high * Nat.pow 10 (-(power - steps)).toNat) :
    i.contains ((i.search tie (steps + 1) power).digits * Nat.pow 10 (i.search tie (steps + 1) power).power.toNat)
      (Nat.pow 10 (-(i.search tie (steps + 1) power).power).toNat) = true := by
  induction steps generalizing power with
  | zero =>
    rw [Int.natCast_zero, Int.sub_zero] at fine
    obtain ⟨digits, found⟩ : ∃ digits, i.onGrid tie power = some digits :=
      Option.isSome_iff_exists.mp (onGrid_isSome low high wide fine)
    simp only [search, found]
    exact onGrid_contained found
  | succ steps ih =>
    unfold search
    split
    · rename_i digits found
      exact onGrid_contained found
    · have same : power - 1 - (steps : Int) = power - (steps + 1 : Nat) := by omega
      exact ih (by rwa [same])

end Interval

section Size

theorem ten_pow_le_two_pow {a b : Nat} (less : 10 * (a + 2) ≤ 3 * b) : 10 ^ a ≤ 2 ^ b := by
  calc 10 ^ a
    _ ≤ 10 ^ (3 * ((a + 2) / 3)) := Nat.pow_le_pow_right (by decide) (by omega)
    _ = (10 ^ 3) ^ ((a + 2) / 3) := Nat.pow_mul ..
    _ ≤ (2 ^ 10) ^ ((a + 2) / 3) := Nat.pow_le_pow_left (by decide) _
    _ = 2 ^ (10 * ((a + 2) / 3)) := (Nat.pow_mul ..).symm
    _ ≤ 2 ^ b := Nat.pow_le_pow_right (by decide) (by omega)

/-- Thirty-three bits are less than ten digits, and three are less than one. -/
theorem two_pow_le_ten_pow {a b : Nat} (less : 10 * (a / 33) + (a % 33 + 2) / 3 ≤ b) : 2 ^ a ≤ 10 ^ b := by
  have many : 2 ^ (33 * (a / 33)) ≤ 10 ^ (10 * (a / 33)) := by
    rw [Nat.pow_mul, Nat.pow_mul]
    exact Nat.pow_le_pow_left (by decide) _
  have few : 2 ^ (a % 33) ≤ 10 ^ ((a % 33 + 2) / 3) := by
    calc 2 ^ (a % 33)
      _ ≤ 2 ^ (3 * ((a % 33 + 2) / 3)) := Nat.pow_le_pow_right (by decide) (by omega)
      _ = (2 ^ 3) ^ ((a % 33 + 2) / 3) := Nat.pow_mul ..
      _ ≤ 10 ^ ((a % 33 + 2) / 3) := Nat.pow_le_pow_left (by decide) _
  calc 2 ^ a
    _ = 2 ^ (33 * (a / 33)) * 2 ^ (a % 33) := by rw [← Nat.pow_add, Nat.div_add_mod]
    _ ≤ 10 ^ (10 * (a / 33)) * 10 ^ ((a % 33 + 2) / 3) := Nat.mul_le_mul many few
    _ ≤ 10 ^ b := by
      rw [← Nat.pow_add]
      exact Nat.pow_le_pow_right (by decide) less

variable {x : Double}

theorem significand_pos (apart : x.magnitude ≠ 0) : 0 < x.significand := by
  unfold significand
  split
  · exact Nat.pos_of_ne_zero apart
  · exact Nat.lt_of_lt_of_le (Nat.pow_pos (n := 52) (a := 2) (by decide)) (Nat.le_add_left ..)

theorem exponent_le (finite : x.isFinite) : x.exponent ≤ 2045 := by
  have below : x.magnitude < infinityMagnitude := of_decide_eq_true finite
  have bound : x.magnitude / Nat.pow 2 52 < 2047 := Nat.div_lt_of_lt_mul below
  unfold exponent
  omega

theorem significand_lt : x.significand < 2 ^ 53 := by
  have bound : x.magnitude % Nat.pow 2 52 < Nat.pow 2 52 := Nat.mod_lt _ (by decide)
  unfold significand
  change _ < Nat.pow 2 53
  split
  · exact Nat.lt_of_lt_of_le ‹_› (by decide)
  · have twice : Nat.pow 2 53 = Nat.pow 2 52 + Nat.pow 2 52 := by decide
    rw [twice]
    exact Nat.add_lt_add_right bound _

theorem last_grid_le {unit size : Nat} (power : Int) (units : unit ≤ 1075) (small : size ≤ 2045)
    (last : power ≤ ((size : Int) - unit) * 30103 / 100000 - 5) :
    2 ^ unit * 10 ^ power.toNat ≤ 2 ^ size * 10 ^ (-power).toNat := by
  rcases Int.lt_or_le power 0 with below | natural
  · rw [Int.toNat_of_nonpos (Int.le_of_lt below), Nat.pow_zero, Nat.mul_one]
    rcases Nat.le_total unit size with large | less
    · exact Nat.le_trans (Nat.pow_le_pow_right (by decide) large) (Nat.le_mul_of_pos_right _ (Nat.pow_pos (by decide)))
    · have gap : 2 ^ (unit - size) ≤ 10 ^ (-power).toNat := two_pow_le_ten_pow (by omega)
      calc 2 ^ unit
        _ = 2 ^ size * 2 ^ (unit - size) := by rw [← Nat.pow_add, Nat.add_sub_cancel' less]
        _ ≤ 2 ^ size * 10 ^ (-power).toNat := Nat.mul_le_mul_left _ gap
  · have large : unit ≤ size := by omega
    have gap : 10 ^ power.toNat ≤ 2 ^ (size - unit) := ten_pow_le_two_pow (by omega)
    rw [Int.toNat_of_nonpos (Int.neg_nonpos_of_nonneg natural), Nat.pow_zero, Nat.mul_one]
    calc 2 ^ unit * 10 ^ power.toNat
      _ ≤ 2 ^ unit * 2 ^ (size - unit) := Nat.mul_le_mul_left _ gap
      _ = 2 ^ size := by rw [← Nat.pow_add, Nat.add_sub_cancel' large]

end Size

variable {x : Double}

theorem interval_den (x : Double) {bits : Nat} (width : bits = 1076) : x.interval.den = 2 ^ bits := by
  simp only [interval, ← width, Nat.pow_eq]

theorem unit_pos (x : Double) : 0 < Nat.pow 2 x.exponent := Nat.pow_pos (by decide)

theorem interval_low_pos (apart : x.magnitude ≠ 0) : 0 < x.interval.low := by
  have positive := significand_pos apart
  apply Nat.mul_pos _ x.unit_pos
  split <;> omega

theorem interval_low_lt (apart : x.magnitude ≠ 0) : x.interval.low + 2 * Nat.pow 2 x.exponent < x.interval.high := by
  have positive := significand_pos apart
  change (4 * x.significand - if _ then 1 else 2) * Nat.pow 2 x.exponent + 2 * Nat.pow 2 x.exponent <
    (4 * x.significand + 2) * Nat.pow 2 x.exponent
  rw [← Nat.add_mul]
  apply Nat.mul_lt_mul_of_pos_right _ x.unit_pos
  split <;> omega

theorem interval_value_within (apart : x.magnitude ≠ 0) :
    x.interval.low < x.interval.value ∧ x.interval.value < x.interval.high := by
  have positive := significand_pos apart
  constructor
  · apply Nat.mul_lt_mul_of_pos_right _ x.unit_pos
    split <;> omega
  · exact Nat.mul_lt_mul_of_pos_right (by omega) x.unit_pos

/-- The shortest decimal reads back: it lies in the interval of the number. -/
theorem shortest_contained (finite : x.isFinite) (apart : x.magnitude ≠ 0) (tie : Tie) :
    x.interval.contains ((x.shortest tie).digits * Nat.pow 10 (x.shortest tie).power.toNat)
      (Nat.pow 10 (-(x.shortest tie).power).toNat) = true := by
  obtain ⟨unit, same⟩ : ∃ unit, unit = 1075 := ⟨_, rfl⟩
  have den := interval_den x (show unit + 1 = 1076 by omega)
  obtain ⟨low, high⟩ := interval_value_within apart
  rw [shortest, if_neg apart]
  apply Interval.search_contained low high (by rw [den]; exact Nat.two_pow_pos _)
  have bits : x.significand.log2 ≤ 52 :=
    Nat.le_of_lt_succ ((Nat.log2_lt (Nat.ne_of_gt (significand_pos apart))).mpr significand_lt)
  have grid := last_grid_le (x.decimalExponent - (23 : Nat)) (Nat.le_of_eq same) (exponent_le finite)
    (by unfold decimalExponent; omega)
  generalize x.decimalExponent - (23 : Nat) = power at grid ⊢
  have spaced : 0 < Nat.pow 10 (-power).toNat := Nat.pow_pos (by decide)
  calc x.interval.den * Nat.pow 10 power.toNat + x.interval.low * Nat.pow 10 (-power).toNat
    _ = 2 * (2 ^ unit * Nat.pow 10 power.toNat) + x.interval.low * Nat.pow 10 (-power).toNat := by
      rw [den, Nat.pow_succ, Nat.mul_comm (2 ^ unit), Nat.mul_assoc]
    _ ≤ 2 * (2 ^ x.exponent * 10 ^ (-power).toNat) + x.interval.low * Nat.pow 10 (-power).toNat :=
      Nat.add_le_add_right (Nat.mul_le_mul_left 2 grid) _
    _ = (x.interval.low + 2 * Nat.pow 2 x.exponent) * Nat.pow 10 (-power).toNat := by
      rw [Nat.add_mul, Nat.add_comm, Nat.mul_assoc]
      rfl
    _ < x.interval.high * Nat.pow 10 (-power).toNat := Nat.mul_lt_mul_of_pos_right (interval_low_lt apart) spaced

theorem shortest_pos (finite : x.isFinite) (apart : x.magnitude ≠ 0) (tie : Tie) : 0 < (x.shortest tie).digits := by
  have contained := shortest_contained finite apart tie
  have spaced : 0 < Nat.pow 10 (-(x.shortest tie).power).toNat := Nat.pow_pos (by decide)
  rcases Nat.eq_zero_or_pos (x.shortest tie).digits with none | positive
  · rw [none, Nat.zero_mul, Interval.contains_zero (interval_low_pos apart) spaced] at contained
    cases contained
  · exact positive

end FeatureLayers.Double
