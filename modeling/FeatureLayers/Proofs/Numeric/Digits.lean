import FeatureLayers.Numeric.Reading
import Mathlib.Algebra.Group.Nat.Defs

namespace FeatureLayers

theorem radixDigit?_digit {c : Char} (digit : c.isDigit) : radixDigit? 10 c = some (c.toNat - '0'.toNat) := by
  have bounds : '0' ≤ c ∧ c ≤ '9' := by
    simpa [Char.isDigit, Char.le_def] using digit
  have most : c.toNat ≤ 57 := UInt32.le_iff_toNat_le.mp (Char.le_def.mp bounds.2)
  have small : c.toNat - '0'.toNat < 10 := by
    change c.toNat - 48 < 10
    omega
  unfold radixDigit?
  rw [if_pos bounds, Option.filter_some, decide_eq_true small]
  rfl

theorem digitsValue?_digits {digits : List Char} (all : ∀ c ∈ digits, c.isDigit) :
    digitsValue? 10 digits = some (Nat.ofDigitChars 10 digits 0) := by
  have onward (total : Nat) : digits.foldl
      (fun total? c => total?.bind fun total => (radixDigit? 10 c).map (total * 10 + ·)) (some total) =
        some (Nat.ofDigitChars 10 digits total) := by
    induction digits generalizing total with
    | nil => rfl
    | cons c digits ih =>
      have others := ih fun d member => all d (List.mem_cons_of_mem _ member)
      rw [List.foldl_cons, Option.bind_some, radixDigit?_digit (all c List.mem_cons_self), Option.map_some, others,
        Nat.mul_comm total 10, Nat.ofDigitChars_cons]
  exact onward 0

theorem digitChars_digits (n : Nat) : ∀ c ∈ digitChars n, c.isDigit :=
  fun _ => Nat.isDigit_of_mem_toDigits (by decide) (by decide)

theorem natOfDigits?_digitChars (n : Nat) : natOfDigits? 10 (digitChars n) = some n := by
  have value : digitsValue? 10 (digitChars n) = some n := by
    rw [digitsValue?_digits (digitChars_digits n), digitChars, Nat.ofDigitChars_ten_toDigits]
  unfold natOfDigits?
  split
  · rename_i none
    exact absurd none Nat.toDigits_ne_nil
  · exact value

theorem intOf?_digitChars (n : Nat) : intOf? (digitChars n) = some (Int.ofNat n) := by
  have digits := digitChars_digits n
  unfold intOf?
  split
  · rename_i signed
    rw [signed] at digits
    exact absurd (digits '+' List.mem_cons_self) (by decide)
  · rename_i signed
    rw [signed] at digits
    exact absurd (digits '-' List.mem_cons_self) (by decide)
  · rw [natOfDigits?_digitChars]
    rfl

theorem intOf?_intChars (n : Int) : intOf? (intChars n) = some n := by
  unfold intChars
  split
  · rename_i negative
    rw [intOf?, natOfDigits?_digitChars, Option.map_some, Option.some.injEq, Int.ofNat_eq_natCast]
    omega
  · rename_i natural
    rw [intOf?_digitChars, Option.some.injEq, Int.ofNat_eq_natCast]
    omega

theorem intText_ne_empty (n : Int) : intText n ≠ "" := by
  intro empty
  have read := intOf?_intChars n
  rw [show intChars n = [] from String.ofList_eq_empty_iff.mp empty] at read
  cases read

theorem int32?_intText {n : Int} (least : -Nat.pow 2 31 ≤ n) (most : n < Nat.pow 2 31) :
    int32? (intText n).toList = some n := by
  rw [intText, String.toList_ofList, int32?, intOfWidth?, intOf?_intChars, Option.filter_some, if_pos]
  exact Bool.and_eq_true_iff.mpr ⟨decide_eq_true least, decide_eq_true most⟩

theorem int32?_bounds {text : List Char} {n : Int} (h : int32? text = some n) :
    -Nat.pow 2 31 ≤ n ∧ n < Nat.pow 2 31 := by
  obtain ⟨-, fits⟩ := Option.filter_eq_some_iff.mp h
  obtain ⟨least, most⟩ := Bool.and_eq_true_iff.mp fits
  exact ⟨of_decide_eq_true least, of_decide_eq_true most⟩

def NoDigit (rest : List Char) : Prop := ∀ c ∈ rest.head?, isDigit c = false

theorem noDigit_nil : NoDigit [] := nofun

theorem noDigit_cons {c : Char} (rest : List Char) (other : isDigit c = false) : NoDigit (c :: rest) := by
  rintro _ ⟨⟩
  exact other

theorem isDigit_of_digit {c : Char} (digit : c.isDigit) : isDigit c = true := by
  have bounds : '0' ≤ c ∧ c ≤ '9' := by
    simpa [Char.isDigit, Char.le_def] using digit
  simp [isDigit, digitValue?, bounds]

section Runs

variable {digits rest : List Char}

theorem takeWhile_noDigit (ends : NoDigit rest) : rest.takeWhile isDigit = [] := by
  cases rest with
  | nil => rfl
  | cons c rest => exact List.takeWhile_cons_of_neg (by simp [ends c rfl])

theorem dropWhile_noDigit (ends : NoDigit rest) : rest.dropWhile isDigit = rest := by
  cases rest with
  | nil => rfl
  | cons c rest => exact List.dropWhile_cons_of_neg (by simp [ends c rfl])

theorem takeWhile_digits (all : ∀ c ∈ digits, c.isDigit) (ends : NoDigit rest) :
    (digits ++ rest).takeWhile isDigit = digits := by
  rw [List.takeWhile_append_of_pos fun c among => isDigit_of_digit (all c among), takeWhile_noDigit ends,
    List.append_nil]

theorem dropWhile_digits (all : ∀ c ∈ digits, c.isDigit) (ends : NoDigit rest) :
    (digits ++ rest).dropWhile isDigit = rest := by
  rw [List.dropWhile_append_of_pos fun c among => isDigit_of_digit (all c among), dropWhile_noDigit ends]

end Runs

section Zeros

theorem digitChars_head {n : Nat} (positive : 0 < n) : (digitChars n).head? ≠ some '0' := by
  induction n using Nat.strongRecOn with
  | ind n ih =>
    unfold digitChars at ih ⊢
    rcases Nat.lt_or_ge n 10 with small | large
    · rw [Nat.toDigits_of_lt_base small, List.head?_singleton, ne_eq, Option.some.injEq, Nat.digitChar_eq_zero]
      omega
    · have before := ih (n / 10) (by omega) (by omega)
      obtain ⟨first, others, written⟩ := List.exists_cons_of_ne_nil (Nat.toDigits_ne_nil (n := n / 10) (b := 10))
      rw [Nat.toDigits_of_base_le (by decide) large, written]
      rwa [written] at before

theorem digitChars_noZero (n : Nat) (several : 1 < (digitChars n).length) : (digitChars n).head? ≠ some '0' := by
  rcases Nat.eq_zero_or_pos n with rfl | positive
  · exact absurd several (by decide)
  · exact digitChars_head positive

theorem zeros_digits (count : Nat) : ∀ c ∈ zeros count, c.isDigit := by
  intro c among
  rw [(List.mem_replicate.mp among).2]
  rfl

theorem paddedDigits_digits (width n : Nat) : ∀ c ∈ paddedDigits width n, c.isDigit := by
  intro c among
  rcases List.mem_append.mp among with zero | digit
  · exact zeros_digits _ c zero
  · exact digitChars_digits n c digit

theorem digitsValue?_zeros (count : Nat) {digits : List Char} (all : ∀ c ∈ digits, c.isDigit) :
    digitsValue? 10 (zeros count ++ digits) = digitsValue? 10 digits := by
  have both : ∀ c ∈ zeros count ++ digits, c.isDigit := by
    intro c among
    rcases List.mem_append.mp among with zero | digit
    · exact zeros_digits count c zero
    · exact all c digit
  rw [digitsValue?_digits both, digitsValue?_digits all, Nat.ofDigitChars_append, zeros,
    Nat.ofDigitChars_replicate_zero, Nat.mul_zero]

theorem paddedDigits_length {width n : Nat} (fits : n < 10 ^ width) (wide : 0 < width) :
    (paddedDigits width n).length = width := by
  have short := (Nat.length_toDigits_le_iff (b := 10) (by decide) wide).mpr fits
  rw [paddedDigits, List.length_append, zeros, List.length_replicate]
  change width - (digitChars n).length + (digitChars n).length = width
  exact Nat.sub_add_cancel short

theorem natOfDigits?_of_ne_nil {digits : List Char} (nonempty : digits ≠ []) :
    natOfDigits? 10 digits = digitsValue? 10 digits := by
  unfold natOfDigits?
  split
  · exact absurd rfl nonempty
  · rfl

theorem paddedDigits_ne_nil (width n : Nat) : paddedDigits width n ≠ [] :=
  List.append_ne_nil_of_right_ne_nil _ Nat.toDigits_ne_nil

theorem natOfDigits?_paddedDigits (width n : Nat) : natOfDigits? 10 (paddedDigits width n) = some n := by
  rw [natOfDigits?_of_ne_nil (paddedDigits_ne_nil width n), paddedDigits, digitsValue?_zeros _ (digitChars_digits n),
    digitsValue?_digits (digitChars_digits n), digitChars, Nat.ofDigitChars_ten_toDigits]

end Zeros

end FeatureLayers
