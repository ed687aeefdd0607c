import FeatureLayers.Proofs.Json.Numbers
import FeatureLayers.Proofs.Numeric.Exact

namespace FeatureLayers

namespace Double.Interval

variable {i : Interval} {num den : Nat}

theorem contains_mul_right {scale : Nat} (positive : 0 < scale) :
    i.contains (num * scale) (den * scale) = i.contains num den := by
  have le (a b : Nat) : a * scale ≤ b * scale ↔ a ≤ b := Nat.mul_le_mul_right_iff positive
  have lt (a b : Nat) : a * scale < b * scale ↔ a < b := Nat.mul_lt_mul_right positive
  simp only [contains, Nat.mul_right_comm num scale, ← Nat.mul_assoc, le, lt]

theorem contains_congr {num' den' : Nat} (positive : 0 < den) (positive' : 0 < den') (same : num * den' = num' * den) :
    i.contains num den = i.contains num' den' :=
  calc i.contains num den
    _ = i.contains (num * den') (den * den') := (contains_mul_right positive').symm
    _ = i.contains (num' * den) (den' * den) := by rw [same, Nat.mul_comm den]
    _ = i.contains num' den' := contains_mul_right positive

end Double.Interval

namespace Json

open Double (Holds)

theorem holds_powerOfTen {k : Nat} (small : k ≤ 22) : (powerOfTen k).Holds (10 ^ k) := by
  have fives : 5 ^ k < 2 ^ 53 := Nat.lt_of_le_of_lt (Nat.pow_le_pow_right (by decide) small) (by decide)
  rw [powerOfTen, Nat.pow_eq, show 10 ^ k = 5 ^ k * 2 ^ k from Nat.mul_pow 5 2 k]
  exact Double.holds_ofNat fives (by omega)

theorem scale?_of_contains {x : Double} (finite : x.isFinite) {digits : Nat} (small : digits < 2 ^ 53) {power : Int}
    (near : power.natAbs ≤ 22)
    (inside : x.interval.contains (digits * Nat.pow 10 power.toNat) (Nat.pow 10 (-power).toNat) = true) (fuel : Nat) :
    scale? (fuel + 1) (Double.ofNat digits) power = some (Double.ofMagnitude false x.magnitude) := by
  have held : (Double.ofNat digits).Holds digits := by
    simpa using Double.holds_ofNat (j := 0) small (by decide)
  have ten := holds_powerOfTen near
  have rounded := Double.ofRatio_of_contains finite (Nat.pow_pos (by decide)) inside false
  rw [scale?, if_pos (by omega)]
  by_cases natural : 0 ≤ power
  · have finite : (Double.ofMagnitude false x.magnitude).isInfinite = false := by
      have below : x.magnitude < Double.infinityMagnitude := of_decide_eq_true finite
      rw [Double.isInfinite, Double.magnitude_ofMagnitude false (Nat.lt_trans below (by decide))]
      exact decide_eq_false (Nat.ne_of_lt below)
    have product : (Double.ofNat digits).mul (powerOfTen power.natAbs) = Double.ofMagnitude false x.magnitude := by
      rw [held.mul_eq ten, ← rounded, show (-power).toNat = 0 by omega, show power.toNat = power.natAbs by omega]
      rfl
    rw [if_pos natural]
    simp only [product, finite, Bool.false_eq_true, if_false]
  · have quotient : (Double.ofNat digits).div (powerOfTen power.natAbs) = Double.ofMagnitude false x.magnitude := by
      rw [held.div_eq ten (Nat.pow_pos (by decide)), ← rounded, show power.toNat = 0 by omega,
        show (-power).toNat = power.natAbs by omega, Nat.pow_eq, Nat.pow_zero, Nat.mul_one]
    rw [if_neg natural, quotient]

def exponentValue : Option (Bool × List Char) → Int
  | none => 0
  | some (negative, digits) =>
    if negative then -(Nat.ofDigitChars 10 digits 0 : Int) else Nat.ofDigitChars 10 digits 0

theorem Literal.value?_of_fits {literal : Literal} (formed : literal.WellFormed)
    (pointed : literal.part ≠ [] ∨ literal.exponent ≠ none)
    (fits : Nat.ofDigitChars 10 (literal.whole ++ literal.part) 0 < Nat.pow 2 64)
    (small : (exponentValue literal.exponent).natAbs < Nat.pow 2 31) :
    literal.value? = (scale? 8 (Double.ofNat (Nat.ofDigitChars 10 (literal.whole ++ literal.part) 0))
      (exponentValue literal.exponent - literal.part.length)).map fun x =>
        .double (if literal.negative then x.neg else x) := by
  rw [Nat.ofDigitChars_append] at fits ⊢
  have whole := accumulate_digits formed.whole.all (Nat.lt_of_le_of_lt (le_ofDigitChars _ _) fits)
  have part := accumulate_digits formed.part fits
  have scaled : (literal.part.isEmpty && literal.exponent.isNone) = false := by
    cases part : literal.part <;> cases exponent : literal.exponent <;> simp_all
  simp only [Literal.value?, whole, part, List.isEmpty_nil, Bool.true_and, scaled, Bool.false_eq_true, if_false,
    List.length_nil, Nat.sub_zero]
  cases exponent : literal.exponent with
  | none => simp [exponentValue]
  | some e =>
    obtain ⟨negative, digits⟩ := e
    have value := digitsValue?_digits (formed.exponent _ exponent).2
    rw [exponent] at small
    simp only [exponentValue] at small ⊢
    simp only [value, Option.getD_some]
    rw [if_neg (by split at small <;> omega)]
    congr 2
    split <;> omega

end Json

open Json (Literal exponentValue)

namespace Decimal

theorem literal_negative (negative : Bool) (digits : List Char) (power : Int) :
    (literal negative digits power).negative = negative := by
  unfold literal
  dsimp only
  repeat' split
  all_goals rfl

theorem literal_exponent (negative : Bool) {digits : List Char} (nonempty : digits ≠ []) (power : Int) :
    (exponentValue (literal negative digits power).exponent).natAbs ≤ digits.length + power.natAbs := by
  have count : 0 < digits.length := List.length_pos_iff.mpr nonempty
  have value (n : Nat) : Nat.ofDigitChars 10 (digitChars n) 0 = n := Nat.ofDigitChars_ten_toDigits
  unfold literal
  dsimp only
  split
  · simp only [exponentValue, value]
    split <;> omega
  · repeat' split
    all_goals simp [exponentValue]

theorem literal_value (negative : Bool) (n : Nat) (power : Int) :
    let read := literal negative (digitChars n) power
    (Nat.ofDigitChars 10 (read.whole ++ read.part) 0 = n ∧ exponentValue read.exponent - read.part.length = power) ∨
      (0 ≤ power ∧ Nat.ofDigitChars 10 (read.whole ++ read.part) 0 = n * 10 ^ (power + 1).toNat ∧
        exponentValue read.exponent - read.part.length = -1) := by
  have value (n : Nat) : Nat.ofDigitChars 10 (digitChars n) 0 = n := Nat.ofDigitChars_ten_toDigits
  have digits := value n
  have count : 0 < (digitChars n).length := List.length_pos_iff.mpr Nat.toDigits_ne_nil
  generalize digitChars n = written at digits count
  unfold literal
  dsimp only
  split
  · left
    simp only [List.take_append_drop, digits, exponentValue, value, List.length_drop, true_and, decide_eq_true_eq]
    split <;> omega
  · split
    · rename_i natural
      right
      have zero : zeros power.toNat ++ ['0'] = zeros (power + 1).toNat := by
        rw [zeros, zeros, ← List.replicate_succ', show (power + 1).toNat = power.toNat + 1 by omega]
      refine ⟨natural, ?_, rfl⟩
      rw [List.append_assoc, zero, Nat.ofDigitChars_append, digits, zeros, Nat.ofDigitChars_replicate_zero, Nat.mul_comm]
    · split
      · left
        have zero (n : Nat) : ['0'] ++ zeros n = zeros (n + 1) := rfl
        refine ⟨?_, ?_⟩
        · rw [← List.append_assoc, zero, Nat.ofDigitChars_append, zeros, Nat.ofDigitChars_replicate_zero,
            Nat.mul_zero, digits]
        · simp only [exponentValue, List.length_append, zeros, List.length_replicate]
          omega
      · left
        simp only [List.take_append_drop, digits, exponentValue, List.length_drop, true_and]
        omega

end Decimal

namespace Double

variable {x : Double}

/--
The shortest decimal has so few digits, with the zeros up to its point, that they are held exactly, and so few of them
stand behind the point that the power of ten is, too.
-/
def Short (x : Double) : Prop :=
  -22 ≤ (x.shortest .toEven).power ∧
    (x.shortest .toEven).digits * 10 ^ ((x.shortest .toEven).power + 1).toNat < 2 ^ 53

instance (x : Double) : Decidable x.Short := inferInstanceAs (Decidable (_ ∧ _))

theorem reread?_of_value {y : Double} (read : x.literal.value? = some (.double y)) : x.reread? = some y := by
  rw [reread?, Json.Node.double?, read]
  rfl

theorem Short.bounds (short : x.Short) (positive : 0 < (x.shortest .toEven).digits) :
    (digitChars (x.shortest .toEven).digits).length ≤ 16 ∧ (x.shortest .toEven).power.natAbs ≤ 22 ∧
      (x.shortest .toEven).digits < 2 ^ 53 := by
  obtain ⟨least, few⟩ := short
  generalize (x.shortest .toEven).digits = digits at positive few ⊢
  generalize (x.shortest .toEven).power = power at least few ⊢
  have spaced : 0 < 10 ^ (power + 1).toNat := Nat.pow_pos (by decide)
  have small : digits < 2 ^ 53 := Nat.lt_of_le_of_lt (Nat.le_mul_of_pos_right digits spaced) few
  have tens : 10 ^ (power + 1).toNat < 10 ^ 16 :=
    Nat.lt_of_le_of_lt (Nat.le_mul_of_pos_left _ positive) (Nat.lt_trans few (by decide))
  have places : (power + 1).toNat < 16 := (Nat.pow_lt_pow_iff_right (by decide)).mp tens
  refine ⟨?_, by omega, small⟩
  exact (Nat.length_toDigits_le_iff (b := 10) (by decide) (by decide)).mpr (Nat.lt_trans small (by decide))

theorem literal_of_apart (apart : x.magnitude ≠ 0) : x.literal =
    Decimal.literal x.negative (digitChars (x.shortest .toEven).digits) (x.shortest .toEven).power :=
  if_neg (by simpa [isZero] using apart)

theorem scale?_literal (finite : x.isFinite) (short : x.Short) (apart : x.magnitude ≠ 0) :
    Nat.ofDigitChars 10 (x.literal.whole ++ x.literal.part) 0 < 2 ^ 53 ∧
      Json.scale? 8 (ofNat (Nat.ofDigitChars 10 (x.literal.whole ++ x.literal.part) 0))
        (exponentValue x.literal.exponent - x.literal.part.length) = some (ofMagnitude false x.magnitude) := by
  have inside := shortest_contained finite apart .toEven
  obtain ⟨-, near, small⟩ := short.bounds (shortest_pos finite apart .toEven)
  rw [literal_of_apart apart]
  rcases Decimal.literal_value x.negative (x.shortest .toEven).digits (x.shortest .toEven).power with
    ⟨same, power⟩ | ⟨natural, filled, power⟩
  · rw [same, power]
    exact ⟨small, Json.scale?_of_contains finite small near inside 7⟩
  · -- With the zeros up to its point and one behind it, a whole number is divided by ten.
    rw [filled, power]
    refine ⟨short.2, Json.scale?_of_contains finite short.2 (by decide) ?_ 7⟩
    rw [← inside]
    apply Interval.contains_congr (by decide) (Nat.pow_pos (by decide))
    rw [show (-(x.shortest .toEven).power).toNat = 0 by omega,
      show ((x.shortest .toEven).power + 1).toNat = (x.shortest .toEven).power.toNat + 1 by omega]
    simp [Nat.pow_succ, Nat.mul_assoc]

theorem signed_magnitude (finite : x.isFinite) :
    (if x.negative then (ofMagnitude false x.magnitude).neg else ofMagnitude false x.magnitude) = x := by
  have below : x.magnitude < infinityMagnitude := of_decide_eq_true finite
  have self := ofMagnitude_self x
  rw [neg_ofMagnitude false (Nat.lt_trans below (by decide)), Bool.not_false]
  cases sign : x.negative <;> rw [sign] at self <;> exact self

theorem reread?_of_short (finite : x.isFinite) (short : x.Short) : x.reread? = some x := by
  by_cases zero : x.magnitude = 0
  · rw [← ofMagnitude_self x, zero]
    cases x.negative <;> decide +kernel
  · obtain ⟨few, scaled⟩ := scale?_literal finite short zero
    obtain ⟨count, near, -⟩ := short.bounds (shortest_pos finite zero .toEven)
    have exponent := Decimal.literal_exponent x.negative
      (Nat.toDigits_ne_nil (b := 10) (n := (x.shortest .toEven).digits)) (x.shortest .toEven).power
    have sign : x.literal.negative = x.negative := by
      rw [literal_of_apart zero, Decimal.literal_negative]
    apply reread?_of_value
    rw [Literal.value?_of_fits (literal_wellFormed finite) (literal_pointed x) (Nat.lt_trans few (by decide)), scaled,
      Option.map_some, sign, signed_magnitude finite]
    rw [literal_of_apart zero]
    exact Nat.lt_of_le_of_lt (Nat.le_trans exponent (Nat.add_le_add count near)) (by decide)

-- With seventeen digits the double may be scaled to its neighbour.
example : reread? ⟨0x403f3eca06faea82⟩ = some ⟨0x403f3eca06faea83⟩ := by decide +kernel

end Double

end FeatureLayers
