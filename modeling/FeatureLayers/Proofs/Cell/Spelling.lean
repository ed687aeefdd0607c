import FeatureLayers.Proofs.Cell.Forms
import FeatureLayers.Proofs.Text.Hex

namespace FeatureLayers

section Digits

variable {radix n : Nat} {digits text : List Char}

def Writes (radix n : Nat) (digits : List Char) : Prop :=
  ∃ count, digits.map Char.toLower = zeros count ++ Nat.toDigits radix n

theorem radixDigit?_eq_some_iff {c : Char} {d : Nat} (most : radix ≤ 16) :
    radixDigit? radix c = some d ↔ d < radix ∧ c.toLower = Nat.digitChar d := by
  constructor
  · intro digit
    exact ⟨radixDigit?_lt digit, (Text.Hex.radixDigit?_sixteen_iff.mp (radixDigit?_wider most digit)).2⟩
  · rintro ⟨small, same⟩
    rw [← radixDigit?_toLower, same]
    exact radixDigit?_digitChar small most

theorem digitsValue?_zeros_append (positive : 0 < radix) (count : Nat) (digits : List Char) :
    digitsValue? radix (zeros count ++ digits) = digitsValue? radix digits := by
  have zero : radixDigit? radix '0' = some 0 := by simp [radixDigit?, positive]
  induction count with
  | zero => rfl
  | succ count ih =>
    rw [← ih, zeros, List.replicate_succ, List.cons_append]
    simp only [digitsValue?, List.foldl_cons, Option.bind_some, zero, Option.map_some, Nat.zero_mul]
    rfl

theorem Writes.value (least : 1 < radix) (most : radix ≤ 16) (writes : Writes radix n digits) :
    digitsValue? radix digits = some n := by
  obtain ⟨count, written⟩ := writes
  rw [← digitsValue?_lower, written, digitsValue?_zeros_append (by omega), digitsValue?_toDigits least most]

theorem Writes.ne_nil (writes : Writes radix n digits) : digits ≠ [] := by
  rintro rfl
  obtain ⟨count, written⟩ := writes
  exact Nat.toDigits_ne_nil (List.append_eq_nil_iff.mp written.symm).2

theorem writes_of_value (least : 1 < radix) (most : radix ≤ 16) (nonempty : digits ≠ [])
    (value : digitsValue? radix digits = some n) : Writes radix n digits := by
  induction digits using List.reverseRecOn generalizing n with
  | nil => exact absurd rfl nonempty
  | append_singleton digits last ih =>
    obtain ⟨total, d, before, digit, rfl⟩ := digitsValue?_concat_eq_some value
    obtain ⟨small, lower⟩ := (radixDigit?_eq_some_iff most).mp digit
    have one : Nat.toDigits radix d = [Nat.digitChar d] := Nat.toDigits_of_lt_base small
    by_cases first : digits = []
    · subst first
      cases before
      exact ⟨0, by simp [zeros, lower, one]⟩
    · obtain ⟨count, written⟩ := ih first before
      rcases Nat.eq_zero_or_pos total with rfl | positive
      · -- What was zero up to here is one more zero before the last digit.
        refine ⟨count + 1, ?_⟩
        rw [List.map_append, written, Nat.toDigits_zero]
        simp [zeros, List.replicate_succ', lower, one]
      · refine ⟨count, ?_⟩
        have more : radix ≤ total * radix + d := Nat.le_trans (Nat.le_mul_of_pos_left radix positive) (Nat.le_add_right _ d)
        have quotient : (total * radix + d) / radix = total := by
          rw [Nat.mul_comm, Nat.mul_add_div (by omega), Nat.div_eq_of_lt small, Nat.add_zero]
        have rest : (total * radix + d) % radix = d := by
          rw [Nat.mul_comm, Nat.mul_add_mod, Nat.mod_eq_of_lt small]
        rw [Nat.toDigits_of_base_le least more, quotient, rest, List.map_append, written]
        simp [lower]

theorem natOfDigits?_iff_writes (least : 1 < radix) (most : radix ≤ 16) :
    natOfDigits? radix digits = some n ↔ Writes radix n digits := by
  rw [natOfDigits?_eq_some_iff]
  exact ⟨fun ⟨nonempty, value⟩ => writes_of_value least most nonempty value,
    fun writes => ⟨writes.ne_nil, writes.value least most⟩⟩

def WritesSigned (radix n : Nat) (text : List Char) : Prop :=
  ∃ digits, (text = digits ∨ text = '+' :: digits) ∧ Writes radix n digits

theorem Writes.noPlus (least : 1 < radix) (most : radix ≤ 16) (writes : Writes radix n digits) : '+' ∉ digits := by
  intro among
  obtain ⟨d, plus⟩ := Option.isSome_iff_exists.mp (radixDigit?_of_mem (writes.value least most) '+' among)
  exact absurd (radixDigit?_bounds plus).1 (by decide)

theorem natBelow?_eq_some_iff (least : 1 < radix) (most : radix ≤ 16) {bound : Nat} :
    natBelow? radix bound text = some n ↔ n < bound ∧ WritesSigned radix n text := by
  rw [natBelow?_eq, Option.filter_eq_some_iff, natOfDigits?_iff_writes least most, decide_eq_true_iff, and_comm]
  refine and_congr_right fun _ => ⟨fun writes => ?_, fun ⟨digits, written, writes⟩ => ?_⟩
  · unfold withoutPlus at writes
    split at writes
    · exact ⟨_, .inr rfl, writes⟩
    · exact ⟨_, .inl rfl, writes⟩
  · rcases written with rfl | rfl
    · rwa [Cell.withoutPlus_digits (writes.noPlus least most)]
    · exact writes

end Digits

namespace Cell

section Marks

variable {text : List Char}

def marks (count : Nat) : List Char := (List.replicate count ['0', 'x']).flatten

theorem dropHexMarks_marks (count : Nat) (text : List Char) : dropHexMarks (marks count ++ text) = dropHexMarks text := by
  induction count with
  | zero => rfl
  | succ count ih => exact ih

theorem exists_marks (text : List Char) : ∃ count, text = marks count ++ dropHexMarks text := by
  fun_induction dropHexMarks text with
  | case1 rest ih =>
    obtain ⟨count, same⟩ := ih
    exact ⟨count + 1, congrArg (fun rest => '0' :: 'x' :: rest) same⟩
  | case2 text _ => exact ⟨0, rfl⟩

end Marks

section Texts

variable {c : Index} {text : List Char}

/-- The text is an identifier: hexadecimal digits behind a mark or none, or decimal digits. -/
def Index.NamedBy (c : Index) (text : List Char) : Prop :=
  c.word < 2 ^ 64 ∧
    (Writes 16 c.word text ∨ (∃ digits, text = '0' :: 'x' :: digits ∧ Writes 16 c.word digits) ∨ Writes 10 c.word text)

/-- The text is one that the reader takes for the identifier. -/
def Index.TakenFrom (c : Index) (text : List Char) : Prop :=
  c.word < 2 ^ 64 ∧
    ((∃ count number, text = marks count ++ number ∧ WritesSigned 16 c.word number) ∨ WritesSigned 10 c.word text)

/-- The text has a plus, or a mark behind a mark. -/
def Liberal (text : List Char) : Prop := '+' ∈ text ∨ ['0', 'x', '0', 'x'] <+: text

instance (text : List Char) : Decidable (Liberal text) := inferInstanceAs (Decidable (_ ∨ _))

theorem noMark_of_writes (writes : Writes 16 c.word text) : 'x' ∉ text := fun among =>
  absurd (radixDigit?_of_mem (writes.value (by decide) (by decide)) 'x' among) (by decide)

theorem noMark_of_writesSigned (signed : WritesSigned 16 c.word text) : 'x' ∉ text := by
  obtain ⟨digits, rfl | rfl, writes⟩ := signed
  · exact noMark_of_writes writes
  · simpa using noMark_of_writes writes

theorem hexNumber?_eq_some_iff : hexNumber? text = some c.word ↔ c.word < 2 ^ 64 ∧
    ∃ count number, Text.trim text = marks count ++ number ∧ WritesSigned 16 c.word number := by
  rw [hexNumber?, natBelow?_eq_some_iff (by decide) (by decide)]
  refine and_congr_right fun _ => ⟨fun signed => ?_, ?_⟩
  · obtain ⟨count, same⟩ := exists_marks (Text.trim text)
    exact ⟨count, _, same, signed⟩
  · rintro ⟨count, number, same, signed⟩
    rwa [same, dropHexMarks_marks, dropHexMarks_unmarked (noMark_of_writesSigned signed)]

theorem decimalNumber?_eq_some_iff :
    decimalNumber? text = some c.word ↔ c.word < 2 ^ 64 ∧ WritesSigned 10 c.word (Text.trim text) := by
  rw [decimalNumber?, nat64?, natBelow?_eq_some_iff (by decide) (by decide)]
  rfl

theorem Index.NamedBy.taken (named : c.NamedBy text) : c.TakenFrom text := by
  obtain ⟨narrow, plain | ⟨digits, rfl, marked⟩ | decimal⟩ := named
  · exact ⟨narrow, .inl ⟨0, text, rfl, text, .inl rfl, plain⟩⟩
  · exact ⟨narrow, .inl ⟨1, digits, rfl, digits, .inl rfl, marked⟩⟩
  · exact ⟨narrow, .inr ⟨text, .inl rfl, decimal⟩⟩

theorem Index.NamedBy.not_liberal (named : c.NamedBy text) : ¬ Liberal text := by
  have tail {digits : List Char} (begins : ['0', 'x', '0', 'x'] <+: '0' :: 'x' :: digits) : 'x' ∈ digits := by
    obtain ⟨rest, same⟩ := begins
    obtain ⟨rfl⟩ : '0' :: 'x' :: rest = digits := by simpa using same
    simp
  rintro (plus | begins)
  · obtain ⟨-, plain | ⟨digits, rfl, marked⟩ | decimal⟩ := named
    · exact plain.noPlus (by decide) (by decide) plus
    · exact marked.noPlus (by decide) (by decide) (by simpa using plus)
    · exact decimal.noPlus (by decide) (by decide) plus
  · obtain ⟨-, plain | ⟨digits, rfl, marked⟩ | decimal⟩ := named
    · exact noMark_of_writes plain (begins.subset (by simp))
    · exact noMark_of_writes marked (tail begins)
    · exact absurd (radixDigit?_of_mem (decimal.value (by decide) (by decide)) 'x' (begins.subset (by simp))) (by decide)

theorem Index.TakenFrom.named (taken : c.TakenFrom text) (strict : ¬ Liberal text) : c.NamedBy text := by
  obtain ⟨narrow, ⟨count, number, rfl, digits, written, hex⟩ | ⟨digits, written, decimal⟩⟩ := taken
  · rcases written with rfl | rfl
    · match count with
      | 0 => exact ⟨narrow, .inl hex⟩
      | 1 => exact ⟨narrow, .inr (.inl ⟨number, rfl, hex⟩)⟩
      | count + 2 => exact absurd (.inr ⟨marks count ++ number, rfl⟩) strict
    · exact absurd (.inl (by simp)) strict
  · rcases written with rfl | rfl
    · exact ⟨narrow, .inr (.inr decimal)⟩
    · exact absurd (.inl (by simp)) strict

end Texts

end Cell

namespace Decode

open Cell (Index Liberal hexNumber? decimalNumber?)

theorem cellOf_text_ok_iff (c : Index) (text : String) :
    cellOf (.text text) = .ok c ↔ c.TakenFrom (Text.trim text.toList) := by
  have same (number? : Option Nat) : number?.bind Index.of? = some c ↔ number? = some c.word := by
    simp [Option.bind_eq_some_iff, Cell.Index.of?_eq_some_iff]
  have either : ((hexNumber? text.toList).bind Index.of?).or ((decimalNumber? text.toList).bind Index.of?) = some c ↔
      (hexNumber? text.toList).bind Index.of? = some c ∨ (decimalNumber? text.toList).bind Index.of? = some c := by
    rw [Option.or_eq_some_iff]
    refine or_congr_right ⟨And.right, fun decimal => ⟨?_, decimal⟩⟩
    rw [decimal_excludes_hex decimal]
    rfl
  rw [cellOf_eq_ok_iff, Cell.ofValue?, Cell.ofText?_eq, either, same, same, Cell.hexNumber?_eq_some_iff,
    Cell.decimalNumber?_eq_some_iff, ← and_or_left]
  rfl

theorem cellOf_text_cases (text : String) :
    (∃ c, cellOf (.text text) = .ok c) ∨ cellOf (.text text) = .error (.malformedCell text) := by
  unfold cellOf
  cases Cell.ofValue? (.text text) with
  | none => exact .inr rfl
  | some c => exact .inl ⟨c, rfl⟩

/--
After trimming, a text is read as an identifier exactly when it is the digits of it in hexadecimal, behind any number of
marks, or in decimal, with a plus before the digits or none; every other text is malformed. The reader takes what is an
identifier with one mark at most and without a plus, and nothing else, exactly when the text has neither a plus nor a mark
behind a mark or is malformed.
-/
theorem identifier_texts_are_exact_unless_liberal (text : String) :
    (∀ c : Index, cellOf (.text text) = .ok c ↔ c.TakenFrom (Text.trim text.toList)) ∧
    ((∃ c, cellOf (.text text) = .ok c) ∨ cellOf (.text text) = .error (.malformedCell text)) ∧
    ((∀ c : Index, cellOf (.text text) = .ok c ↔ c.NamedBy (Text.trim text.toList)) ↔
      ¬ Liberal (Text.trim text.toList) ∨ cellOf (.text text) = .error (.malformedCell text)) := by
  refine ⟨fun c => cellOf_text_ok_iff c text, cellOf_text_cases text, fun exactly => ?_, fun either c => ?_⟩
  · refine (cellOf_text_cases text).imp_left fun ⟨c, accepted⟩ => ?_
    exact ((exactly c).mp accepted).not_liberal
  · rw [cellOf_text_ok_iff]
    refine ⟨fun taken => ?_, Index.NamedBy.taken⟩
    rcases either with strict | malformed
    · exact taken.named strict
    · rw [← cellOf_text_ok_iff, malformed] at taken
      cases taken

/-- Neither text is an identifier, and both are read as one. -/
theorem doubled_mark_and_plus_are_read :
    cellOf (.text "0x0x8928308280fffff") = .ok bay ∧ (∀ c : Index, ¬ c.NamedBy "0x0x8928308280fffff".toList) ∧
    cellOf (.text "+8928308280fffff") = .ok bay ∧ ∀ c : Index, ¬ c.NamedBy "+8928308280fffff".toList := by
  refine ⟨by decide +kernel, fun c named => ?_, by decide +kernel, fun c named => ?_⟩
  · exact absurd (by decide) named.not_liberal
  · exact absurd (by decide) named.not_liberal

end Decode

end FeatureLayers
