import FeatureLayers.Proofs.Numeric.Exact

namespace FeatureLayers.Double

section Order

variable {x y z : Double}

theorem le_iff : x.le y = true ↔ x.isNaN = false ∧ y.isNaN = false ∧ x.key ≤ y.key := by
  simp [le, and_assoc]

theorem le_refl (number : x.isNaN = false) : x.le x = true := le_iff.mpr ⟨number, number, Int.le_refl _⟩

theorem le_trans (first : x.le y = true) (second : y.le z = true) : x.le z = true := by
  obtain ⟨number, -, below⟩ := le_iff.mp first
  obtain ⟨-, number', above⟩ := le_iff.mp second
  exact le_iff.mpr ⟨number, number', Int.le_trans below above⟩

theorem le_total (left : x.isNaN = false) (right : y.isNaN = false) : x.le y = true ∨ y.le x = true := by
  simp only [le_iff, left, right, true_and]
  exact Int.le_total ..

section Extremes

theorem min_cases (x y : Double) : x.min y = x ∨ x.min y = y := by
  unfold Double.min
  split
  · exact .inr rfl
  · split
    · exact .inr rfl
    · exact .inl rfl

theorem max_cases (x y : Double) : x.max y = x ∨ x.max y = y := by
  unfold Double.max
  split
  · exact .inr rfl
  · split
    · exact .inr rfl
    · exact .inl rfl

theorem isNaN_min (left : x.isNaN = false) (right : y.isNaN = false) : (x.min y).isNaN = false := by
  rcases min_cases x y with same | same <;> rw [same] <;> assumption

theorem isNaN_max (left : x.isNaN = false) (right : y.isNaN = false) : (x.max y).isNaN = false := by
  rcases max_cases x y with same | same <;> rw [same] <;> assumption

theorem le_min_iff (left : x.isNaN = false) (right : y.isNaN = false) :
    z.le (x.min y) = true ↔ z.le x = true ∧ z.le y = true := by
  simp only [le_iff, isNaN_min left right, left, right, true_and]
  unfold Double.min lt
  simp only [left, right, Bool.false_eq_true, if_false, Bool.not_false, Bool.true_and, decide_eq_true_eq]
  grind

theorem max_le_iff (left : x.isNaN = false) (right : y.isNaN = false) :
    (x.max y).le z = true ↔ x.le z = true ∧ y.le z = true := by
  simp only [le_iff, isNaN_max left right, left, right, true_and]
  unfold Double.max lt
  simp only [left, right, Bool.false_eq_true, if_false, Bool.not_false, Bool.true_and, decide_eq_true_eq]
  grind

end Extremes

section Keys

theorem natAbs_key (x : Double) : x.key.natAbs = x.magnitude := by
  unfold key
  split <;> omega

theorem isFinite_between (low : x.isFinite = true) (high : z.isFinite = true) (least : x.key ≤ y.key)
    (most : y.key ≤ z.key) : y.isFinite = true := by
  simp only [isFinite, decide_eq_true_eq, ← natAbs_key] at low high ⊢
  omega

theorem isFinite_of_le (low : x.isFinite = true) (high : z.isFinite = true) (above : x.le y = true)
    (below : y.le z = true) : y.isFinite = true :=
  isFinite_between low high (le_iff.mp above).2.2 (le_iff.mp below).2.2

theorem key_ofMagnitude (negative : Bool) {m : Nat} (most : m ≤ infinityMagnitude) :
    (ofMagnitude negative m).key = if negative then -(m : Int) else m := by
  have fits : m < Nat.pow 2 63 := Nat.lt_of_le_of_lt most (by decide)
  rw [key, negative_ofMagnitude negative fits, magnitude_ofMagnitude negative fits]

theorem isNaN_ofMagnitude (negative : Bool) {m : Nat} (most : m ≤ infinityMagnitude) :
    (ofMagnitude negative m).isNaN = false := by
  rw [isNaN, magnitude_ofMagnitude negative (Nat.lt_of_le_of_lt most (by decide))]
  exact decide_eq_false (Nat.not_lt_of_le most)

end Keys

end Order

section Quotients

variable {num num' den m : Nat}

theorem roundQuotient_cases (num den : Nat) :
    roundQuotient num den = num / den ∨ roundQuotient num den = num / den + 1 := by
  unfold roundQuotient
  dsimp only
  repeat' split
  all_goals simp

theorem roundQuotient_mono (more : num ≤ num') : roundQuotient num den ≤ roundQuotient num' den := by
  have floors : num / den ≤ num' / den := Nat.div_le_div_right more
  rcases Nat.lt_or_eq_of_le floors with less | same
  · have low := roundQuotient_cases num den
    have high := roundQuotient_cases num' den
    omega
  · -- With the same floor the rests decide, and a tie goes the same way in both.
    have rests : num % den ≤ num' % den := by
      have parts := Nat.div_add_mod num den
      have parts' := Nat.div_add_mod num' den
      rw [← same] at parts'
      omega
    unfold roundQuotient
    dsimp only
    rw [← same]
    repeat' split
    all_goals omega

theorem roundQuotient_mul (positive : 0 < den) (m : Nat) : roundQuotient (m * den) den = m :=
  roundQuotient_eq positive (by omega) (by omega) fun _ => by omega

theorem roundQuotient_le (positive : 0 < den) (most : num ≤ m * den) : roundQuotient num den ≤ m :=
  calc roundQuotient num den
    _ ≤ roundQuotient (m * den) den := roundQuotient_mono most
    _ = m := roundQuotient_mul positive m

theorem le_roundQuotient (positive : 0 < den) (least : m * den ≤ num) : m ≤ roundQuotient num den :=
  calc m
    _ = roundQuotient (m * den) den := (roundQuotient_mul positive m).symm
    _ ≤ roundQuotient num den := roundQuotient_mono least

end Quotients

section Nearest

variable {units units' den : Nat}

def nearest (units den : Nat) : Nat :=
  ((units / den).log2 - 52) * Nat.pow 2 52 + roundQuotient units (den * Nat.pow 2 ((units / den).log2 - 52))

theorem log2_mono {n m : Nat} (less : n ≤ m) : n.log2 ≤ m.log2 := by
  rcases Nat.eq_zero_or_pos n with rfl | positive
  · exact Nat.zero_le _
  · rw [Nat.le_log2 (by omega)]
    exact Nat.le_trans (Nat.log2_self_le (Nat.ne_of_gt positive)) less

theorem nearest_mono (positive : 0 < den) (more : units ≤ units') : nearest units den ≤ nearest units' den := by
  have quotients : units / den ≤ units' / den := Nat.div_le_div_right more
  have bits := log2_mono quotients
  unfold nearest
  obtain ⟨k, low⟩ : ∃ k, (units / den).log2 - 52 = k := ⟨_, rfl⟩
  obtain ⟨l, high⟩ : ∃ l, (units' / den).log2 - 52 = l := ⟨_, rfl⟩
  rw [low, high]
  rcases Nat.lt_or_eq_of_le (show k ≤ l by omega) with fewer | same
  · -- The smaller ratio is rounded to at most the power of two that the larger one has reached.
    have top : roundQuotient units (den * Nat.pow 2 k) ≤ 2 ^ 53 := by
      have below : units / den < 2 ^ (53 + k) :=
        Nat.lt_of_lt_of_le Nat.lt_log2_self (Nat.pow_le_pow_right (by decide) (by omega))
      refine roundQuotient_le (Nat.mul_pos positive (pow_two_pos k)) (Nat.le_of_lt ?_)
      rw [Nat.pow_eq, Nat.mul_left_comm, ← Nat.pow_add, Nat.mul_comm]
      exact (Nat.div_lt_iff_lt_mul positive).mp below
    have bottom : 2 ^ 52 ≤ roundQuotient units' (den * Nat.pow 2 l) := by
      have apart : units' / den ≠ 0 := fun zero => by
        rw [zero] at high
        rw [show Nat.log2 0 = 0 from rfl] at high
        omega
      have reached : 2 ^ (52 + l) ≤ units' / den := (Nat.le_log2 apart).mp (by omega)
      refine le_roundQuotient (Nat.mul_pos positive (pow_two_pos l)) ?_
      rw [Nat.pow_eq, Nat.mul_left_comm, ← Nat.pow_add, Nat.mul_comm]
      exact (Nat.le_div_iff_mul_le positive).mp reached
    rw [Nat.pow_eq]
    omega
  · rw [same]
    exact Nat.add_le_add_left (roundQuotient_mono more) _

theorem nearest_mul_right (units den : Nat) {scale : Nat} (positive : 0 < scale) :
    nearest (units * scale) (den * scale) = nearest units den := by
  simp only [nearest, Nat.mul_div_mul_right _ _ positive, Nat.mul_right_comm den scale,
    roundQuotient_mul_right _ _ positive]

theorem nearest_zero (den : Nat) : nearest 0 den = 0 := by
  simp [nearest, roundQuotient, Nat.log2_zero]

theorem natAbs_scaled (x : Double) : x.scaled.natAbs = x.significand * Nat.pow 2 x.exponent := by
  unfold scaled
  dsimp only
  split
  · rw [Int.natAbs_neg, Int.natAbs_natCast]
  · rw [Int.natAbs_natCast]

theorem nearest_self {x : Double} (positive : 0 < den) : nearest (x.scaled.natAbs * den) den = x.magnitude := by
  have rounds : x.Rounds (x.significand * Nat.pow 2 x.exponent * den) den := by
    have wide : 0 < den * Nat.pow 2 x.exponent := Nat.mul_pos positive (pow_two_pos _)
    have gap : 1 ≤ x.lowGap := by
      rcases lowGap_cases x with ⟨gap, -⟩ | ⟨gap, -⟩ <;> omega
    have units : x.significand * Nat.pow 2 x.exponent * den = x.significand * (den * Nat.pow 2 x.exponent) := by
      rw [Nat.mul_assoc, Nat.mul_comm den]
    have product : 4 * x.significand * (den * Nat.pow 2 x.exponent) =
        4 * (x.significand * (den * Nat.pow 2 x.exponent)) := Nat.mul_assoc ..
    refine ⟨?_, ?_, fun odd => ⟨?_, ?_⟩⟩
    · rw [units, Nat.sub_mul, product]
      exact Nat.sub_le ..
    · rw [units, Nat.add_mul, product]
      exact Nat.le_add_right ..
    · have some : 0 < x.significand * (den * Nat.pow 2 x.exponent) := Nat.mul_pos (by omega) wide
      rw [units, Nat.sub_mul, product]
      exact Nat.sub_lt (by omega) (Nat.mul_pos gap wide)
    · rw [units, Nat.add_mul, product]
      exact Nat.lt_add_of_pos_right (Nat.mul_pos (by decide) wide)
  rw [natAbs_scaled]
  exact rounds.rounded_eq_magnitude positive

end Nearest

section Signed

variable {x y : Double} {n n' : Int} {den : Nat}

def nearestKey (n : Int) (den : Nat) : Int :=
  if n < 0 then -(Nat.min (nearest n.natAbs den) infinityMagnitude : Nat)
  else (Nat.min (nearest n.natAbs den) infinityMagnitude : Nat)

theorem nearestKey_mono (positive : 0 < den) (more : n ≤ n') : nearestKey n den ≤ nearestKey n' den := by
  have capped {a b : Nat} (less : a ≤ b) :
      Nat.min (nearest a den) infinityMagnitude ≤ Nat.min (nearest b den) infinityMagnitude :=
    Nat.le_min.mpr ⟨Nat.le_trans (Nat.min_le_left ..) (nearest_mono positive less), Nat.min_le_right ..⟩
  unfold nearestKey
  split
  · split
    · have := capped (show n'.natAbs ≤ n.natAbs by omega)
      omega
    · omega
  · rw [if_neg (by omega)]
    have := capped (show n.natAbs ≤ n'.natAbs by omega)
    omega

theorem mul_neg_iff {scale : Nat} (positive : 0 < scale) : n * scale < 0 ↔ n < 0 := by
  rw [← Int.zero_mul scale, Int.mul_lt_mul_right (Int.natCast_pos.mpr positive), Int.zero_mul]

theorem nearestKey_mul_right (n : Int) (den : Nat) {scale : Nat} (positive : 0 < scale) :
    nearestKey (n * scale) (den * scale) = nearestKey n den := by
  rw [nearestKey, Int.natAbs_mul, Int.natAbs_natCast, nearest_mul_right n.natAbs den positive]
  simp only [mul_neg_iff positive]
  rfl

theorem significand_eq_zero (zero : x.magnitude = 0) : x.significand = 0 := by
  rw [significand, if_pos (by rw [zero]; exact pow_two_pos 52), zero]

theorem scaled_eq_zero (zero : x.magnitude = 0) : x.scaled = 0 := by
  simp only [scaled, significand_eq_zero zero, Nat.zero_mul, Int.natCast_zero, Int.neg_zero, ite_self]

theorem scaled_neg_iff : x.scaled < 0 ↔ x.negative = true ∧ x.magnitude ≠ 0 := by
  have some : 0 < x.significand * Nat.pow 2 x.exponent ↔ x.magnitude ≠ 0 := by
    constructor
    · intro some zero
      rw [significand_eq_zero zero, Nat.zero_mul] at some
      exact Nat.lt_irrefl 0 some
    · exact fun apart => Nat.mul_pos (significand_pos apart) (pow_two_pos _)
  unfold scaled
  dsimp only
  rw [← some]
  generalize x.significand * Nat.pow 2 x.exponent = size
  split <;> rename_i sign <;> simp only [sign, true_and, Bool.false_eq_true, false_and, iff_false] <;> omega

theorem nearestKey_self (finite : x.isFinite = true) (positive : 0 < den) : nearestKey (x.scaled * den) den = x.key := by
  have most : x.magnitude.min infinityMagnitude = x.magnitude :=
    Nat.min_eq_left (Nat.le_of_lt (of_decide_eq_true finite))
  rw [nearestKey, Int.natAbs_mul, Int.natAbs_natCast, nearest_self positive, most, key]
  simp only [mul_neg_iff positive, scaled_neg_iff]
  grind

theorem ofRatio_eq_nearest (negative : Bool) (num den : Nat) {bits : Nat} (width : bits = 1074) :
    ofRatio negative num den =
      ofMagnitude negative (Nat.min (nearest (num * Nat.pow 2 bits) den) infinityMagnitude) := by
  unfold ofRatio
  rw [← width]
  rfl

theorem key_ofRatio {negative : Bool} (signed : n ≠ 0 → negative = decide (n < 0)) {bits : Nat} (width : bits = 1074) :
    (ofRatio negative n.natAbs den).key = nearestKey (n * Nat.pow 2 bits) den := by
  rw [ofRatio_eq_nearest negative _ den width, key_ofMagnitude negative (Nat.min_le_right ..), nearestKey,
    Int.natAbs_mul, Int.natAbs_natCast]
  by_cases zero : n = 0
  · rw [zero, Int.natAbs_zero, Nat.zero_mul, nearest_zero]
    cases negative <;> simp
  · rw [signed zero]
    simp only [decide_eq_true_eq, mul_neg_iff (pow_two_pos bits)]

theorem isNaN_ofRatio (negative : Bool) (num den : Nat) : (ofRatio negative num den).isNaN = false :=
  isNaN_ofMagnitude negative (Nat.min_le_right ..)

theorem scaled_eq_of_key_eq (same : x.key = y.key) : x.scaled = y.scaled := by
  have size : x.magnitude = y.magnitude := by rw [← natAbs_key, ← natAbs_key, same]
  have fields : x.exponent = y.exponent ∧ x.significand = y.significand := by
    simp only [exponent, significand, size, and_self]
  have sign : x.magnitude ≠ 0 → x.negative = y.negative := by
    intro apart
    unfold key at same
    rw [← size] at same
    grind
  by_cases zero : x.magnitude = 0
  · rw [scaled_eq_zero zero, scaled_eq_zero (size ▸ zero)]
  · simp only [scaled, fields.1, fields.2, sign zero]

theorem key_eq_nearestKey (finite : x.isFinite = true) : x.key = nearestKey x.scaled 1 := by
  rw [← nearestKey_self finite Nat.one_pos, Int.natCast_one, Int.mul_one]

/-- Finite numbers are ordered by what they are worth. -/
theorem key_le_iff (left : x.isFinite = true) (right : y.isFinite = true) : x.key ≤ y.key ↔ x.scaled ≤ y.scaled := by
  have grows {x y : Double} (left : x.isFinite = true) (right : y.isFinite = true) (less : x.scaled ≤ y.scaled) :
      x.key ≤ y.key := by
    rw [key_eq_nearestKey left, key_eq_nearestKey right]
    exact nearestKey_mono Nat.one_pos less
  refine ⟨fun less => ?_, grows left right⟩
  refine Int.not_lt.mp fun more => ?_
  have same : x.key = y.key := Int.le_antisymm less (grows right left (Int.le_of_lt more))
  exact Int.lt_irrefl _ (scaled_eq_of_key_eq same ▸ more)

theorem le_iff_scaled (left : x.isFinite = true) (right : y.isFinite = true) :
    x.le y = true ↔ x.scaled ≤ y.scaled := by
  rw [le_iff, ← key_le_iff left right]
  exact ⟨fun below => below.2.2, fun below => ⟨isNaN_of_isFinite left, isNaN_of_isFinite right, below⟩⟩

end Signed

end FeatureLayers.Double
