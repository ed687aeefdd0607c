import FeatureLayers.Numeric.Reading
import Mathlib.Data.List.Induction
import Mathlib.Tactic.IntervalCases

namespace FeatureLayers

variable {radix : Nat}

section Digit

variable {c : Char} {d : Nat}

theorem radixDigit?_lt (digit : radixDigit? radix c = some d) : d < radix := by
  obtain ⟨-, small⟩ := Option.filter_eq_some_iff.mp digit
  exact of_decide_eq_true small

theorem radixDigit?_wider {wide : Nat} (wider : radix ≤ wide) (digit : radixDigit? radix c = some d) :
    radixDigit? wide c = some d := by
  obtain ⟨value, small⟩ := Option.filter_eq_some_iff.mp digit
  exact Option.filter_eq_some_iff.mpr ⟨value, decide_eq_true (Nat.lt_of_lt_of_le (of_decide_eq_true small) wider)⟩

theorem radixDigit?_digitChar (small : d < radix) (most : radix ≤ 16) :
    radixDigit? radix (Nat.digitChar d) = some d := by
  have plain : ∀ d < 16, radixDigit? 16 (Nat.digitChar d) = some d := by decide
  obtain ⟨value, -⟩ := Option.filter_eq_some_iff.mp (plain d (Nat.lt_of_lt_of_le small most))
  exact Option.filter_eq_some_iff.mpr ⟨value, decide_eq_true small⟩

theorem radixDigit?_bounds (digit : radixDigit? radix c = some d) : 48 ≤ c.toNat ∧ c.toNat ≤ 122 := by
  obtain ⟨value, -⟩ := Option.filter_eq_some_iff.mp digit
  simp only [Char.le_def, UInt32.le_iff_toNat_le] at value
  change (if 48 ≤ c.toNat ∧ c.toNat ≤ 57 then _ else if 97 ≤ c.toNat ∧ c.toNat ≤ 122 then _
    else if 65 ≤ c.toNat ∧ c.toNat ≤ 90 then _ else none) = some d at value
  split at value
  · omega
  · split at value
    · omega
    · split at value
      · omega
      · cases value

theorem radixDigit?_toLower (c : Char) : radixDigit? radix c.toLower = radixDigit? radix c := by
  by_cases upper : 'A'.toNat ≤ c.toNat ∧ c.toNat ≤ 'Z'.toNat
  · have each : ∀ n, 'A'.toNat ≤ n → n ≤ 'Z'.toNat → ∀ radix,
        radixDigit? radix (Char.ofNat n).toLower = radixDigit? radix (Char.ofNat n) := by
      intro n least most radix
      simp only [Char.reduceToNat] at least most
      interval_cases n <;> rfl
    have same := each c.toNat upper.1 upper.2 radix
    rwa [Char.ofNat_toNat] at same
  · have kept : c.toLower = c := by
      unfold Char.toLower
      exact dif_neg fun bounds => upper ⟨UInt32.le_iff_toNat_le.mp bounds.1, UInt32.le_iff_toNat_le.mp bounds.2⟩
    rw [kept]

end Digit

section Digits

variable {digits : List Char} {n : Nat}

theorem digitsValue?_concat (digits : List Char) (c : Char) : digitsValue? radix (digits ++ [c]) =
    (digitsValue? radix digits).bind fun total => (radixDigit? radix c).map (total * radix + ·) := by
  rw [digitsValue?, List.foldl_append]
  rfl

theorem digitsValue?_concat_eq_some {c : Char} (h : digitsValue? radix (digits ++ [c]) = some n) :
    ∃ total d, digitsValue? radix digits = some total ∧ radixDigit? radix c = some d ∧ n = total * radix + d := by
  rw [digitsValue?_concat] at h
  obtain ⟨total, before, h⟩ := Option.bind_eq_some_iff.mp h
  obtain ⟨d, last, rfl⟩ := Option.map_eq_some_iff.mp h
  exact ⟨total, d, before, last, rfl⟩

theorem digitsValue?_toDigits (least : 1 < radix) (most : radix ≤ 16) (n : Nat) :
    digitsValue? radix (Nat.toDigits radix n) = some n := by
  induction n using Nat.strongRecOn with
  | ind n ih =>
    rcases Nat.lt_or_ge n radix with small | large
    · rw [Nat.toDigits_of_lt_base small, ← List.nil_append [n.digitChar], digitsValue?_concat,
        radixDigit?_digitChar small most]
      simp [digitsValue?]
    · have positive : 0 < radix := by omega
      have before := ih (n / radix) (Nat.div_lt_self (by omega) least)
      rw [Nat.toDigits_of_base_le least large, digitsValue?_concat, before, Option.bind_some,
        radixDigit?_digitChar (Nat.mod_lt n positive) most, Option.map_some, Nat.mul_comm, Nat.div_add_mod]

theorem digitsValue?_lower (digits : List Char) :
    digitsValue? radix (digits.map Char.toLower) = digitsValue? radix digits := by
  simp only [digitsValue?, List.foldl_map, radixDigit?_toLower]

theorem radixDigit?_of_mem (h : digitsValue? radix digits = some n) : ∀ c ∈ digits, (radixDigit? radix c).isSome := by
  induction digits using List.reverseRecOn generalizing n with
  | nil => simp
  | append_singleton digits last ih =>
    obtain ⟨total, d, before, digit, -⟩ := digitsValue?_concat_eq_some h
    intro c among
    rcases List.mem_append.mp among with earlier | final
    · exact ih before c earlier
    · rw [List.mem_singleton.mp final, digit]
      rfl

/-- A number of more than `k` places keeps them when its digits are read in a larger radix. -/
theorem digitsValue?_wider {wide : Nat} (positive : 0 < radix) (wider : radix ≤ wide)
    (h : digitsValue? radix digits = some n) :
    ∃ m, digitsValue? wide digits = some m ∧ ∀ k, radix ^ k ≤ n → wide ^ k ≤ m := by
  induction digits using List.reverseRecOn generalizing n with
  | nil =>
    cases h
    refine ⟨0, rfl, fun k few => ?_⟩
    exact absurd few (Nat.not_le.mpr (Nat.pow_pos positive))
  | append_singleton digits last ih =>
    obtain ⟨total, d, before, digit, rfl⟩ := digitsValue?_concat_eq_some h
    obtain ⟨m, read, places⟩ := ih before
    have small := radixDigit?_lt digit
    refine ⟨m * wide + d, ?_, fun k many => ?_⟩
    · rw [digitsValue?_concat, read, Option.bind_some, radixDigit?_wider wider digit, Option.map_some]
    · -- The last digit is below the radix, so all places but the last are those of the number before it.
      cases k with
      | zero =>
        rcases Nat.eq_zero_or_pos total with rfl | some
        · rw [Nat.pow_zero] at many ⊢
          omega
        · have one := places 0 (by rwa [Nat.pow_zero])
          have scaled := Nat.mul_le_mul one (Nat.le_trans positive wider)
          rw [Nat.pow_zero] at scaled ⊢
          omega
      | succ k =>
        have many : radix ^ k * radix < (total + 1) * radix := by
          rw [Nat.succ_mul]
          exact Nat.lt_of_le_of_lt many (Nat.add_lt_add_left small _)
        have fewer := places k (Nat.le_of_lt_succ (Nat.lt_of_mul_lt_mul_right many))
        calc wide ^ (k + 1) = wide ^ k * wide := Nat.pow_succ wide k
          _ ≤ m * wide := Nat.mul_le_mul_right wide fewer
          _ ≤ m * wide + d := Nat.le_add_right _ _

theorem natOfDigits?_eq_some_iff :
    natOfDigits? radix digits = some n ↔ digits ≠ [] ∧ digitsValue? radix digits = some n := by
  cases digits <;> simp [natOfDigits?]

end Digits

section Unsigned

def withoutPlus : List Char → List Char
  | '+' :: digits => digits
  | digits => digits

theorem natBelow?_eq (bound : Nat) (text : List Char) :
    natBelow? radix bound text = (natOfDigits? radix (withoutPlus text)).filter (· < bound) := by
  unfold natBelow?
  split
  · rfl
  · rename_i unsigned
    rw [withoutPlus.eq_2 text unsigned]

end Unsigned

end FeatureLayers
