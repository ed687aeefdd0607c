import FeatureLayers.Decode.Row
import FeatureLayers.Proofs.Numeric.Digits
import FeatureLayers.Proofs.Numeric.Radix
import FeatureLayers.Text.Blank

namespace FeatureLayers.Cell

open Text (isBlank trim)

section Words

variable {word : Nat} {c : Index}

theorem Index.of?_eq_some_iff : Index.of? word = some c ↔ word = c.word := by
  unfold Index.of?
  split
  · rw [Option.some.injEq]
    exact ⟨fun same => same ▸ rfl, fun same => by cases c; cases same; rfl⟩
  · rename_i invalid
    exact ⟨nofun, fun same => absurd (same ▸ c.valid) invalid⟩

theorem Index.of?_word (c : Index) : Index.of? c.word = some c := Index.of?_eq_some_iff.mpr rfl

theorem Index.word_bounds (c : Index) (narrow : c.word < 2 ^ 64) : 2 ^ 59 ≤ c.word ∧ c.word < 2 ^ 59 + 2 ^ 56 := by
  have valid := c.valid
  simp only [isCellWord, Bool.and_eq_true, decide_eq_true_eq] at valid
  have high : c.word / 2 ^ 56 % 2 ^ 8 = 8 := valid.1.1.1.1
  omega

end Words

section Readings

def hexNumber? (text : List Char) : Option Nat := natBelow? 16 (Nat.pow 2 64) (dropHexMarks (trim text))

def decimalNumber? (text : List Char) : Option Nat := nat64? (trim text)

theorem ofText?_eq (text : String) : ofText? text =
    ((hexNumber? text.toList).bind Index.of?).or ((decimalNumber? text.toList).bind Index.of?) := rfl

variable {text : List Char}

theorem dropHexMarks_unmarked (unmarked : 'x' ∉ text) : dropHexMarks text = text := by
  unfold dropHexMarks
  split
  · exact absurd (List.mem_cons_of_mem _ List.mem_cons_self) unmarked
  · rfl

theorem withoutPlus_digits (unsigned : '+' ∉ text) : withoutPlus text = text := by
  unfold withoutPlus
  split
  · exact absurd List.mem_cons_self unsigned
  · rfl

theorem mem_of_mem_withoutPlus {c : Char} (among : c ∈ text) : c = '+' ∨ c ∈ withoutPlus text := by
  unfold withoutPlus
  split
  · rcases List.mem_cons.mp among with plus | digit
    · exact .inl plus
    · exact .inr digit
  · exact .inr among

/-- The hexadecimal reading of the decimal digits of a large number does not fit in a word. -/
theorem hexNumber?_of_decimal {n : Nat} (decimal : decimalNumber? text = some n) (large : 10 ^ 16 ≤ n) :
    hexNumber? text = none := by
  rw [decimalNumber?, nat64?, natBelow?_eq] at decimal
  obtain ⟨read, -⟩ := Option.filter_eq_some_iff.mp decimal
  obtain ⟨nonempty, value⟩ := natOfDigits?_eq_some_iff.mp read
  have digits := radixDigit?_of_mem value
  have unmarked : 'x' ∉ trim text := by
    intro among
    rcases mem_of_mem_withoutPlus among with plus | digit
    · cases plus
    · exact absurd (digits 'x' digit) (by decide)
  obtain ⟨m, widened, places⟩ := digitsValue?_wider (by decide) (show 10 ≤ 16 by decide) value
  have huge : Nat.pow 2 64 ≤ m := places 16 large
  rw [hexNumber?, dropHexMarks_unmarked unmarked, natBelow?_eq, natOfDigits?_eq_some_iff.mpr ⟨nonempty, widened⟩]
  exact Option.filter_eq_none_iff.mpr (by rintro _ ⟨⟩; simpa using huge)

theorem solid_of_digit {radix : Nat} {c : Char} (digit : (radixDigit? radix c).isSome) : isBlank c = false := by
  obtain ⟨d, value⟩ := Option.isSome_iff_exists.mp digit
  have bounds := radixDigit?_bounds value
  simp only [isBlank, Bool.or_eq_false_iff, Bool.and_eq_false_iff, decide_eq_false_iff_not]
  omega

end Readings

section Spelling

variable {c : Index} {lead digits tail : List Char}

def Index.Digits (c : Index) (digits : List Char) : Prop := digits.map Char.toLower = c.text.toList

instance : Decidable (c.Digits digits) := inferInstanceAs (Decidable (_ = _))

theorem Index.Digits.value (spelled : c.Digits digits) : digitsValue? 16 digits = some c.word := by
  rw [← digitsValue?_lower, spelled, Index.text, String.toList_ofList]
  exact digitsValue?_toDigits (by decide) (by decide) c.word

theorem Index.Digits.ne_nil (spelled : c.Digits digits) : digits ≠ [] := by
  rintro rfl
  rw [Index.Digits, Index.text, String.toList_ofList] at spelled
  exact Nat.toDigits_ne_nil spelled.symm

theorem hexNumber?_digits (narrow : c.word < 2 ^ 64) (spelled : c.Digits digits) {mark : List Char}
    (marked : mark = [] ∨ mark = ['0', 'x']) (before : ∀ c ∈ lead, isBlank c) (after : ∀ c ∈ tail, isBlank c) :
    hexNumber? (lead ++ (mark ++ digits) ++ tail) = some c.word := by
  have read := radixDigit?_of_mem spelled.value
  have solid : ∀ c ∈ mark ++ digits, isBlank c = false := by
    intro c among
    rcases List.mem_append.mp among with sign | digit
    · rcases marked with rfl | rfl
      · cases sign
      · have marks : ['0', 'x'].all (!isBlank ·) := by decide
        simpa using List.all_eq_true.mp marks c sign
    · exact solid_of_digit (read c digit)
  have unmarked : dropHexMarks (mark ++ digits) = digits := by
    have none : 'x' ∉ digits := fun among => absurd (read 'x' among) (by decide)
    rcases marked with rfl | rfl
    · exact dropHexMarks_unmarked none
    · exact dropHexMarks_unmarked none
  have unsigned : '+' ∉ digits := fun among => absurd (read '+' among) (by decide)
  rw [hexNumber?, Text.trim_solid before after solid, unmarked, natBelow?_eq, withoutPlus_digits unsigned,
    natOfDigits?_eq_some_iff.mpr ⟨spelled.ne_nil, spelled.value⟩]
  simpa using narrow

theorem decimalNumber?_digitChars {n : Nat} (narrow : n < 2 ^ 64) (before : ∀ c ∈ lead, isBlank c)
    (after : ∀ c ∈ tail, isBlank c) : decimalNumber? (lead ++ digitChars n ++ tail) = some n := by
  have value : digitsValue? 10 (digitChars n) = some n := digitsValue?_toDigits (by decide) (by decide) n
  have read := radixDigit?_of_mem value
  have unsigned : '+' ∉ digitChars n := fun among => absurd (read '+' among) (by decide)
  rw [decimalNumber?, Text.trim_solid before after fun c among => solid_of_digit (read c among), nat64?, natBelow?_eq,
    withoutPlus_digits unsigned, natOfDigits?_digitChars]
  simpa using narrow

end Spelling

end FeatureLayers.Cell

namespace FeatureLayers.Decode

open Cell (Index decimalNumber? hexNumber?)
open Text (isBlank)

variable {c : Index} {text : String}

theorem cellOf_eq_ok_iff {value : Value} : cellOf value = .ok c ↔ Cell.ofValue? value = some c := by
  unfold cellOf
  split
  · rename_i found same
    simp [same]
  · rename_i none
    simp [none]

theorem cellOf_hex (read : hexNumber? text.toList = some c.word) : cellOf (.text text) = .ok c := by
  rw [cellOf_eq_ok_iff, Cell.ofValue?, Cell.ofText?_eq, read, Option.bind_some, c.of?_word]
  rfl

theorem cellOf_decimal (unread : hexNumber? text.toList = none) (read : decimalNumber? text.toList = some c.word) :
    cellOf (.text text) = .ok c := by
  rw [cellOf_eq_ok_iff, Cell.ofValue?, Cell.ofText?_eq, unread, read, Option.bind_some, c.of?_word]
  rfl

theorem cellOf_int (c : Index) : cellOf (.int c.word) = .ok c := by
  rw [cellOf_eq_ok_iff, Cell.ofValue?, if_pos (Int.natCast_nonneg _), Int.toNat_natCast, c.of?_word]

theorem cellOf_double (x : Double) : cellOf (.double x) = .error (.malformedCell x.toText) := by
  have none : Cell.ofValue? (.double x) = none := by
    rw [Cell.ofValue?]
    split
    · rename_i exact
      simp only [Bool.and_eq_true, decide_eq_true_eq] at exact
      have most : x.truncate ≤ 2 ^ 53 := exact.2
      have least := exact.1.2
      cases found : Index.of? x.truncate.toNat with
      | none => rfl
      | some c =>
        have same := Cell.Index.of?_eq_some_iff.mp found
        have bounds := c.word_bounds (by omega)
        omega
    · rfl
  rw [cellOf, none]
  rfl

theorem decimal_excludes_hex {text : List Char} {d : Index}
    (decimal : (decimalNumber? text).bind Index.of? = some d) : hexNumber? text = none := by
  obtain ⟨n, read, found⟩ := Option.bind_eq_some_iff.mp decimal
  obtain rfl := Cell.Index.of?_eq_some_iff.mp found
  have narrow : d.word < 2 ^ 64 := by
    obtain ⟨-, below⟩ := Option.filter_eq_some_iff.mp read
    exact of_decide_eq_true below
  have bounds := d.word_bounds narrow
  exact Cell.hexNumber?_of_decimal read (by omega)

/--
An identifier is read as the same cell from an integer, from its hexadecimal digits and from its decimal ones, which are
none in hexadecimal. No text is one identifier in hexadecimal and another in decimal, and no double is one.
-/
theorem identifier_forms_agree (c : Index) (narrow : c.word < 2 ^ 64) :
    cellOf (.int c.word) = .ok c ∧
    (∀ lead digits tail : List Char, (∀ c ∈ lead, isBlank c) → (∀ c ∈ tail, isBlank c) → c.Digits digits →
      cellOf (.text (String.ofList (lead ++ digits ++ tail))) = .ok c ∧
      cellOf (.text (String.ofList (lead ++ ('0' :: 'x' :: digits) ++ tail))) = .ok c) ∧
    (∀ lead tail : List Char, (∀ c ∈ lead, isBlank c) → (∀ c ∈ tail, isBlank c) →
      hexNumber? (lead ++ digitChars c.word ++ tail) = none ∧
      cellOf (.text (String.ofList (lead ++ digitChars c.word ++ tail))) = .ok c) ∧
    (∀ text h d, (hexNumber? text).bind Index.of? = some h → (decimalNumber? text).bind Index.of? = some d → h = d) ∧
    ∀ x, cellOf (.double x) = .error (.malformedCell x.toText) := by
  refine ⟨cellOf_int c, fun lead digits tail before after spelled => ⟨?_, ?_⟩, fun lead tail before after => ?_,
    fun text h d hex decimal => ?_, cellOf_double⟩
  · exact cellOf_hex (by rw [String.toList_ofList]; exact Cell.hexNumber?_digits narrow spelled (.inl rfl) before after)
  · exact cellOf_hex (by rw [String.toList_ofList]; exact Cell.hexNumber?_digits narrow spelled (.inr rfl) before after)
  · have decimal := Cell.decimalNumber?_digitChars narrow before after
    have bounds := c.word_bounds narrow
    have unread := Cell.hexNumber?_of_decimal decimal (by omega)
    refine ⟨unread, cellOf_decimal ?_ ?_⟩
    · rwa [String.toList_ofList]
    · rwa [String.toList_ofList]
  · rw [decimal_excludes_hex decimal] at hex
    cases hex

def bay : Index := ⟨0x8928308280fffff, by decide +kernel⟩

theorem forms_of_bay_agree :
    bay.word < 2 ^ 64 ∧ cellOf (.int 617700169958293503) = .ok bay ∧ cellOf (.text " 8928308280fffff\t") = .ok bay ∧
    cellOf (.text " 0x8928308280FFfff\t") = .ok bay ∧ hexNumber? "617700169958293503".toList = none ∧
    cellOf (.text "617700169958293503") = .ok bay ∧
    cellOf (.double (.ofInt 617700169958293503)) =
      .error (.malformedCell (Double.ofInt 617700169958293503).toText) := by
  have narrow : bay.word < 2 ^ 64 := by decide
  obtain ⟨int, hex, decimal, -, double⟩ := identifier_forms_agree bay narrow
  have before : ∀ c ∈ [' '], isBlank c := List.all_eq_true.mp (by decide)
  have after : ∀ c ∈ ['\t'], isBlank c := List.all_eq_true.mp (by decide)
  have lower := hex [' '] "8928308280fffff".toList ['\t'] before after (by decide +kernel)
  have mixed := hex [' '] "8928308280FFfff".toList ['\t'] before after (by decide +kernel)
  have written := decimal [] [] (by simp) (by simp)
  have digits : digitChars bay.word = "617700169958293503".toList := by decide +kernel
  rw [digits, List.nil_append, List.append_nil, String.ofList_toList] at written
  exact ⟨narrow, int, lower.1, mixed.2, written.1, written.2, double _⟩

end FeatureLayers.Decode
