import FeatureLayers.Proofs.Numeric.Nearest

namespace FeatureLayers.Double

section Operations

variable {x y a b d e : Double}

theorem add_of_isFinite (left : x.isFinite = true) (right : y.isFinite = true) :
    x.add y = if x.scaled + y.scaled = 0 then signedZero (x.negative && y.negative)
      else ofScaled (x.scaled + y.scaled) := by
  unfold add
  simp only [isNaN_of_isFinite left, isNaN_of_isFinite right, isInfinite_of_isFinite left,
    isInfinite_of_isFinite right, Bool.or_self, Bool.false_eq_true, if_false]

theorem isNaN_add (left : x.isFinite = true) (right : y.isFinite = true) : (x.add y).isNaN = false := by
  rw [add_of_isFinite left right]
  split
  · exact isNaN_ofMagnitude _ (Nat.zero_le _)
  · exact isNaN_ofRatio ..

theorem key_add (left : x.isFinite = true) (right : y.isFinite = true) :
    (x.add y).key = nearestKey (x.scaled + y.scaled) 1 := by
  obtain ⟨bits, width⟩ : ∃ bits, bits = 1074 := ⟨_, rfl⟩
  rw [add_of_isFinite left right]
  split
  · rename_i none
    rw [none, signedZero, key_ofMagnitude _ (Nat.zero_le _), nearestKey, Int.natAbs_zero, nearest_zero]
    split <;> rfl
  · have whole := nearestKey_mul_right (x.scaled + y.scaled) 1 (pow_two_pos bits)
    rw [Nat.one_mul] at whole
    rw [ofScaled, ← width, key_ofRatio (fun _ => rfl) width, whole]

theorem key_div (left : x.isFinite = true) (right : y.isFinite = true) (apart : y.isZero = false) {bits : Nat}
    (width : bits = 1074) :
    (x.div y).key =
      nearestKey ((if y.negative then -x.scaled else x.scaled) * Nat.pow 2 bits) y.scaled.natAbs := by
  have rounded : x.div y = ofRatio (x.negative != y.negative) x.scaled.natAbs y.scaled.natAbs := by
    unfold div
    simp only [isNaN_of_isFinite left, isNaN_of_isFinite right, isInfinite_of_isFinite left,
      isInfinite_of_isFinite right, apart, Bool.or_self, Bool.false_eq_true, if_false]
  have size : (if y.negative then -x.scaled else x.scaled).natAbs = x.scaled.natAbs := by
    split
    · exact Int.natAbs_neg _
    · rfl
  rw [rounded, ← size]
  refine key_ofRatio (fun some => ?_) width
  have worth : x.magnitude ≠ 0 := fun zero => by
    rw [scaled_eq_zero zero, Int.neg_zero, ite_self] at some
    exact some rfl
  have sign : x.scaled < 0 ↔ x.negative = true := by simp [scaled_neg_iff, worth]
  grind

theorem isNaN_div (left : x.isNaN = false) (right : y.isFinite = true) (apart : y.isZero = false) :
    (x.div y).isNaN = false := by
  unfold div
  simp only [left, isNaN_of_isFinite right, isInfinite_of_isFinite right, apart, Bool.or_self, Bool.false_eq_true,
    if_false]
  split
  · exact isNaN_ofMagnitude _ (Nat.le_refl _)
  · exact isNaN_ofRatio ..

theorem key_half (finite : x.isFinite = true) : x.half.key = nearestKey x.scaled 2 := by
  obtain ⟨bits, width⟩ : ∃ bits, bits = 1074 := ⟨_, rfl⟩
  have size : two.scaled.natAbs = 2 * Nat.pow 2 bits := by
    rw [width]
    decide +kernel
  have natural : two.negative = false := by decide +kernel
  rw [half, key_div finite (by decide +kernel) (by decide +kernel) width, natural, size]
  exact nearestKey_mul_right x.scaled 2 (pow_two_pos bits)

end Operations

section Midpoint

variable {x a b d e : Double}

def halfRange : Nat := Nat.pow 2 (1023 + 1074)

/-- A finite number of magnitude below `2 ^ 1023`, so that twice the number is finite. -/
structure Moderate (x : Double) : Prop where
  finite : x.isFinite = true
  small : x.scaled.natAbs < halfRange

instance (x : Double) : Decidable x.Moderate :=
  decidable_of_iff (x.isFinite = true ∧ x.scaled.natAbs < halfRange)
    ⟨fun ⟨finite, small⟩ => ⟨finite, small⟩, fun ⟨finite, small⟩ => ⟨finite, small⟩⟩

theorem halfRange_le {m k : Nat} (large : 2 ^ 52 ≤ m) (raised : 2045 ≤ k) : halfRange ≤ m * Nat.pow 2 k := by
  obtain ⟨bits, width⟩ : ∃ bits, bits = 2045 := ⟨_, rfl⟩
  calc halfRange
    _ = 2 ^ 52 * Nat.pow 2 bits := by
      rw [width]
      decide +kernel
    _ ≤ m * Nat.pow 2 k := Nat.mul_le_mul large (Nat.pow_le_pow_right (by decide) (width ▸ raised))

theorem exponent_lt_of_moderate (moderate : x.Moderate) : x.exponent < 2045 := by
  refine Nat.lt_of_not_le fun raised => ?_
  have small := moderate.small
  rw [natAbs_scaled] at small
  exact absurd small (Nat.not_lt_of_le (halfRange_le (normal_of_exponent (by omega)) raised))

theorem fields_ofMagnitude_small (negative : Bool) {m : Nat} (small : m < 2 ^ 53) :
    (ofMagnitude negative m).isFinite ∧ (ofMagnitude negative m).negative = negative ∧
      (ofMagnitude negative m).exponent = 0 ∧ (ofMagnitude negative m).significand = m := by
  have fits : m < Nat.pow 2 63 := Nat.lt_trans small (by decide)
  have size : Nat.pow 2 52 = 4503599627370496 := by decide
  unfold isFinite exponent significand
  rw [magnitude_ofMagnitude negative fits, negative_ofMagnitude negative fits, size]
  refine ⟨decide_eq_true (Nat.lt_trans small (by decide)), rfl, ?_, ?_⟩
  · omega
  · split <;> omega

theorem exists_double (moderate : x.Moderate) : ∃ d : Double, d.isFinite = true ∧ d.scaled = 2 * x.scaled := by
  have few := exponent_lt_of_moderate moderate
  have scaled_of {d : Double} (sign : d.negative = x.negative)
      (size : d.significand * Nat.pow 2 d.exponent = 2 * (x.significand * Nat.pow 2 x.exponent)) :
      d.scaled = 2 * x.scaled := by
    unfold scaled
    dsimp only
    rw [sign, size, Int.natCast_mul]
    split
    · rw [Int.mul_neg]
      rfl
    · rfl
  by_cases short : x.significand < 2 ^ 52
  · have lowest : x.exponent = 0 := by
      refine Classical.byContradiction fun raised => ?_
      have := normal_of_exponent raised
      omega
    obtain ⟨finite, sign, exponent, significand⟩ :=
      fields_ofMagnitude_small x.negative (m := 2 * x.significand) (by omega)
    refine ⟨_, finite, scaled_of sign ?_⟩
    rw [exponent, significand, lowest, Nat.mul_assoc]
  · obtain ⟨finite, sign, exponent, significand⟩ :=
      fields_ofMagnitude x.negative (Nat.le_of_not_lt short) (significand_lt (x := x)) (k := x.exponent + 1) (by omega)
    refine ⟨_, finite, scaled_of sign ?_⟩
    rw [exponent, significand, Nat.pow_eq, Nat.pow_succ, Nat.mul_comm (2 ^ x.exponent), Nat.mul_left_comm]
    rfl

/-- A sum of numbers that lie between two moderate ones lies between their doubles. -/
theorem add_between (low : d.Moderate) (high : e.Moderate) (aboveLeft : d.le a = true) (belowLeft : a.le e = true)
    (aboveRight : d.le b = true) (belowRight : b.le e = true) :
    (a.add b).isFinite = true ∧ 2 * d.scaled ≤ (a.add b).scaled ∧ (a.add b).scaled ≤ 2 * e.scaled := by
  have left := isFinite_of_le low.finite high.finite aboveLeft belowLeft
  have right := isFinite_of_le low.finite high.finite aboveRight belowRight
  rw [le_iff_scaled low.finite left] at aboveLeft
  rw [le_iff_scaled left high.finite] at belowLeft
  rw [le_iff_scaled low.finite right] at aboveRight
  rw [le_iff_scaled right high.finite] at belowRight
  obtain ⟨d', lowest, twice⟩ := exists_double low
  obtain ⟨e', highest, twice'⟩ := exists_double high
  have least : d'.key ≤ (a.add b).key := by
    rw [key_eq_nearestKey lowest, key_add left right, twice]
    exact nearestKey_mono Nat.one_pos (by omega)
  have most : (a.add b).key ≤ e'.key := by
    rw [key_eq_nearestKey highest, key_add left right, twice']
    exact nearestKey_mono Nat.one_pos (by omega)
  have finite := isFinite_between lowest highest least most
  rw [← twice, ← twice', ← key_le_iff lowest finite, ← key_le_iff finite highest]
  exact ⟨finite, least, most⟩

theorem half_add_between (low : d.Moderate) (high : e.Moderate) (aboveLeft : d.le a = true)
    (belowLeft : a.le e = true) (aboveRight : d.le b = true) (belowRight : b.le e = true) :
    d.le (a.add b).half = true ∧ (a.add b).half.le e = true := by
  obtain ⟨finite, least, most⟩ := add_between low high aboveLeft belowLeft aboveRight belowRight
  have number : (a.add b).half.isNaN = false :=
    isNaN_div (isNaN_of_isFinite finite) (by decide +kernel) (by decide +kernel)
  have own {x : Double} (finite : x.isFinite = true) : x.key = nearestKey (2 * x.scaled) 2 := by
    rw [← nearestKey_self finite (show 0 < 2 by decide), Int.mul_comm]
    rfl
  constructor
  · refine le_iff.mpr ⟨isNaN_of_isFinite low.finite, number, ?_⟩
    rw [own low.finite, key_half finite]
    exact nearestKey_mono (by decide) least
  · refine le_iff.mpr ⟨number, isNaN_of_isFinite high.finite, ?_⟩
    rw [own high.finite, key_half finite]
    exact nearestKey_mono (by decide) most

end Midpoint

section Functions

/-- The order of finite numbers is kept. No value is NaN, since `le` holds of none. -/
def Increasing (f : Double → Double) : Prop :=
  ∀ x y, x.isFinite = true → y.isFinite = true → x.le y = true → (f x).le (f y) = true

def Decreasing (f : Double → Double) : Prop :=
  ∀ x y, x.isFinite = true → y.isFinite = true → x.le y = true → (f y).le (f x) = true

def Monotonic (f : Double → Double) : Prop := Increasing f ∨ Decreasing f

variable {f : Double → Double} {a b s u v x : Double}

theorem Monotonic.number (monotonic : Monotonic f) (finite : x.isFinite = true) : (f x).isNaN = false := by
  have self := le_refl (isNaN_of_isFinite finite)
  rcases monotonic with increasing | decreasing
  · exact (le_iff.mp (increasing x x finite finite self)).1
  · exact (le_iff.mp (decreasing x x finite finite self)).1

theorem Monotonic.between (monotonic : Monotonic f) (low : a.isFinite = true) (high : b.isFinite = true)
    (above : a.le x = true) (below : x.le b = true) :
    (f a).le (f x) = true ∧ (f x).le (f b) = true ∨ (f b).le (f x) = true ∧ (f x).le (f a) = true := by
  have finite := isFinite_of_le low high above below
  rcases monotonic with increasing | decreasing
  · exact .inl ⟨increasing a x low finite above, increasing x b finite high below⟩
  · exact .inr ⟨decreasing x b finite high below, decreasing a x low finite above⟩

theorem isFinite_neg (finite : x.isFinite = true) : x.neg.isFinite = true := by
  have fits : x.magnitude < Nat.pow 2 63 := Nat.lt_trans (of_decide_eq_true finite) (by decide)
  rw [isFinite, neg, magnitude_ofMagnitude _ fits]
  exact finite

theorem sub_increasing (finite : b.isFinite = true) : Increasing (·.sub b) := by
  intro x y left right less
  have shift := isFinite_neg finite
  refine le_iff.mpr ⟨isNaN_add left shift, isNaN_add right shift, ?_⟩
  change (x.add b.neg).key ≤ (y.add b.neg).key
  rw [key_add left shift, key_add right shift]
  have worth := (le_iff_scaled left right).mp less
  exact nearestKey_mono Nat.one_pos (by omega)

theorem natAbs_key_le (number : x.isNaN = false) : x.key.natAbs ≤ infinityMagnitude := by
  rw [natAbs_key]
  exact Nat.le_of_not_lt (of_decide_eq_false number)

theorem key_div_infinite (infinite : x.isInfinite = true) (finite : s.isFinite = true) :
    (x.div s).key = if s.negative then -x.key else x.key := by
  have size : x.magnitude = infinityMagnitude := of_decide_eq_true infinite
  have number : x.isNaN = false := decide_eq_false (Nat.not_lt_of_le (Nat.le_of_eq size))
  unfold div
  simp only [number, infinite, isNaN_of_isFinite finite, isInfinite_of_isFinite finite, Bool.or_self,
    Bool.false_eq_true, if_true, if_false]
  rw [signedInfinity, key_ofMagnitude _ (Nat.le_refl _), key, size]
  cases x.negative <;> cases s.negative <;> simp

theorem key_div_le_of_isFinite (left : u.isFinite = true) (right : v.isFinite = true) (finite : s.isFinite = true)
    (apart : s.isZero = false) (less : u.le v = true) :
    if s.negative then (v.div s).key ≤ (u.div s).key else (u.div s).key ≤ (v.div s).key := by
  obtain ⟨bits, width⟩ : ∃ bits, bits = 1074 := ⟨_, rfl⟩
  have positive : 0 < s.scaled.natAbs := by
    rw [natAbs_scaled]
    exact Nat.mul_pos (significand_pos (of_decide_eq_false apart)) (pow_two_pos _)
  have worth := (le_iff_scaled left right).mp less
  rw [key_div left finite apart width, key_div right finite apart width]
  split
  · exact nearestKey_mono positive (Int.mul_le_mul_of_nonneg_right (by omega) (Int.natCast_nonneg _))
  · exact nearestKey_mono positive (Int.mul_le_mul_of_nonneg_right worth (Int.natCast_nonneg _))

theorem div_le_div (finite : s.isFinite = true) (apart : s.isZero = false) (less : u.le v = true) :
    if s.negative then (v.div s).le (u.div s) = true else (u.div s).le (v.div s) = true := by
  obtain ⟨left, right, keys⟩ := le_iff.mp less
  have leftNumber := isNaN_div left finite apart
  have rightNumber := isNaN_div right finite apart
  simp only [le_iff, leftNumber, rightNumber, true_and]
  have outside := natAbs_key_le left
  have outside' := natAbs_key_le right
  by_cases near : u.key.natAbs < infinityMagnitude ∧ v.key.natAbs < infinityMagnitude
  · have leftFinite : u.isFinite = true := by rw [isFinite, ← natAbs_key, decide_eq_true near.1]
    have rightFinite : v.isFinite = true := by rw [isFinite, ← natAbs_key, decide_eq_true near.2]
    exact key_div_le_of_isFinite leftFinite rightFinite finite apart less
  · -- One of the two is infinite, so that its quotient is as far out as any number.
    have quotient {u : Double} (far : u.key.natAbs = infinityMagnitude) :
        (u.div s).key = if s.negative then -u.key else u.key :=
      key_div_infinite (by rwa [isInfinite, ← natAbs_key, decide_eq_true_eq]) finite
    have leftBound := natAbs_key_le leftNumber
    have rightBound := natAbs_key_le rightNumber
    by_cases far : u.key.natAbs = infinityMagnitude
    · by_cases far' : v.key.natAbs = infinityMagnitude
      · rw [quotient far, quotient far']
        split <;> omega
      · rw [quotient far]
        split <;> omega
    · rw [quotient (u := v) (by omega)]
      split <;> omega

end Functions

end FeatureLayers.Double
