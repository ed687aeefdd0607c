import FeatureLayers.Json.Record
import FeatureLayers.Proofs.Json.Literals

namespace FeatureLayers

namespace Json

theorem digitValue?_digit {c : Char} (digit : c.isDigit) : digitValue? c = some (c.toNat - '0'.toNat) := by
  have bounds : '0' ≤ c ∧ c ≤ '9' := by
    simpa [Char.isDigit, Char.le_def] using digit
  rw [digitValue?, if_pos bounds]

theorem le_ofDigitChars (digits : List Char) (total : Nat) : total ≤ Nat.ofDigitChars 10 digits total := by
  induction digits generalizing total with
  | nil => exact Nat.le_refl total
  | cons c digits ih =>
    rw [Nat.ofDigitChars_cons]
    exact Nat.le_trans (by omega) (ih _)

theorem accumulate_digits {digits : List Char} (all : ∀ c ∈ digits, c.isDigit) {total : Nat}
    (fits : Nat.ofDigitChars 10 digits total < Nat.pow 2 64) :
    accumulate total digits = (Nat.ofDigitChars 10 digits total, []) := by
  induction digits generalizing total with
  | nil => rfl
  | cons c digits ih =>
    have next : total * 10 + (digitValue? c).getD 0 = 10 * total + (c.toNat - '0'.toNat) := by
      rw [digitValue?_digit (all c List.mem_cons_self), Option.getD_some, Nat.mul_comm]
    rw [Nat.ofDigitChars_cons] at fits ⊢
    have small := Nat.lt_of_le_of_lt (le_ofDigitChars digits _) fits
    rw [accumulate]
    simp only [next]
    rw [if_pos small, ih (fun d among => all d (List.mem_cons_of_mem _ among)) fits]

theorem accumulate_digitChars {n : Nat} (fits : n < Nat.pow 2 64) : accumulate 0 (digitChars n) = (n, []) := by
  have value : Nat.ofDigitChars 10 (digitChars n) 0 = n := Nat.ofDigitChars_ten_toDigits
  rw [accumulate_digits (digitChars_digits n) (by rwa [value]), value]

theorem value?_ofInt_nat {n : Nat} (fits : n < Nat.pow 2 64) : (Literal.ofInt n).value? = some (.nat n) := by
  have natural : ¬((n : Int) < 0) := by omega
  simp [Literal.value?, Literal.ofInt, accumulate_digitChars fits, natural]

theorem value?_ofInt_negative {n : Nat} (positive : 0 < n) (fits : n ≤ Nat.pow 2 63) :
    (Literal.ofInt (-n)).value? = some (.negative (-n)) := by
  have small : n < Nat.pow 2 64 := Nat.lt_of_le_of_lt fits (by decide)
  have negative : (-(n : Int)) < 0 := by omega
  have within : ¬(n = 0 ∨ Nat.pow 2 63 < n) := by omega
  simp only [Literal.value?, Literal.ofInt, Int.natAbs_neg, Int.natAbs_natCast, accumulate_digitChars small, negative]
  simpa using within

theorem Node.int?_ofInt {low high n : Int} (least : -Nat.pow 2 63 ≤ n) (most : n < Nat.pow 2 64) (above : low ≤ n)
    (below : n ≤ high) : (Node.number (.ofInt n)).int? low high = some n := by
  have wanted : (decide (low ≤ n) && decide (n ≤ high)) = true := by
    rw [decide_eq_true above, decide_eq_true below, Bool.and_true]
  rcases Int.lt_or_le n 0 with negative | natural
  · obtain ⟨k, rfl⟩ : ∃ k : Nat, n = -k := ⟨n.natAbs, by omega⟩
    rw [Node.int?, value?_ofInt_negative (by omega) (by omega)]
    simp only [Option.filter_some, wanted, if_true]
  · obtain ⟨k, rfl⟩ : ∃ k : Nat, n = k := ⟨n.natAbs, by omega⟩
    rw [Node.int?, value?_ofInt_nat (by omega)]
    simp only [Option.filter_some, wanted, if_true]

theorem Node.int64?_ofInt {n : Int} (least : -Nat.pow 2 63 ≤ n) (most : n < Nat.pow 2 63) :
    (Node.number (.ofInt n)).int64? = some n := by
  have wide : Nat.pow 2 63 < Nat.pow 2 64 := by decide
  exact Node.int?_ofInt least (by omega) least (by omega)

theorem Node.byte?_ofInt (b : UInt8) : (Node.number (.ofInt b.toNat)).byte? = some b := by
  have small : b.toNat < 256 := b.toNat_lt
  have wide : 256 < Nat.pow 2 64 := by decide
  rw [Node.byte?, Node.int?_ofInt (by omega) (by omega) (by omega) (by omega), Option.map_some, Int.toNat_natCast,
    UInt8.ofNat_toNat]

theorem value?_of_part_or_exponent {literal : Literal} (pointed : literal.part ≠ [] ∨ literal.exponent ≠ none)
    {value : NumberValue} (read : literal.value? = some value) : ∃ y, value = .double y := by
  have scaled : ¬((accumulate 0 literal.whole).2.isEmpty && literal.part.isEmpty && literal.exponent.isNone) := by
    cases part : literal.part <;> cases exponent : literal.exponent <;> simp_all
  simp only [Literal.value?, scaled] at read
  obtain ⟨y, -, rfl⟩ := Option.map_eq_some_iff.mp read
  exact ⟨_, rfl⟩

end Json

theorem Decimal.literal_pointed (negative : Bool) {digits : List Char} (nonempty : digits ≠ []) (power : Int) :
    (literal negative digits power).part ≠ [] ∨ (literal negative digits power).exponent ≠ none := by
  unfold literal
  dsimp only
  split
  · exact .inr nofun
  · split
    · exact .inl (List.cons_ne_nil _ _)
    · split
      · exact .inl (List.append_ne_nil_of_right_ne_nil _ nonempty)
      · have count : 0 < digits.length := List.length_pos_iff.mpr nonempty
        left
        rw [ne_eq, List.drop_eq_nil_iff]
        omega

namespace Double

open Json (Node)

theorem literal_pointed (x : Double) : x.literal.part ≠ [] ∨ x.literal.exponent ≠ none := by
  unfold literal
  split
  · exact .inl (List.cons_ne_nil _ _)
  · exact Decimal.literal_pointed _ Nat.toDigits_ne_nil _

def reread? (x : Double) : Option Double := (Node.number x.literal).double?

theorem literal_int64? (x : Double) : (Node.number x.literal).int64? = none := by
  unfold Node.int64? Node.int?
  dsimp only
  cases read : x.literal.value? with
  | none => rfl
  | some value =>
    obtain ⟨y, rfl⟩ := Json.value?_of_part_or_exponent (literal_pointed x) read
    rfl

end Double

end FeatureLayers
