import FeatureLayers.Proofs.Numeric.Radix
import FeatureLayers.Text.Hex
import Mathlib.Data.String.Basic

namespace FeatureLayers.Text.Hex

def digits : List Char := "0123456789abcdefABCDEF".toList

def IsHex (text : List Char) : Prop := text.length % 2 = 0 ∧ ∀ c ∈ text, c ∈ digits

/-- The bytes written in either letter case. -/
def Spells (text : List Char) (bytes : List UInt8) : Prop := text.map Char.toLower = encode bytes

-- Only the characters of the text are tried, also where all of `Char` could be searched.
local instance decidableOver (text : List Char) (p : Char → Prop) [DecidablePred p] : Decidable (∀ c ∈ text, p c) :=
  List.decidableBAll p text

instance (text : List Char) : Decidable (IsHex text) := inferInstanceAs (Decidable (_ ∧ _))

instance (text : List Char) (bytes : List UInt8) : Decidable (Spells text bytes) := inferInstanceAs (Decidable (_ = _))

def unsignedDigit (c : Char) : Char := if c = '+' then '0' else c

/-- The text with a zero for every plus at the head of a pair. -/
def unsigned : List Char → List Char
  | high :: low :: rest => unsignedDigit high :: low :: unsigned rest
  | text => text

section Digits

variable {c : Char} {n : Nat}

def codes : List Char := (List.range 123).map Char.ofNat

theorem mem_codes (read : radixDigit? 16 c = some n) : c ∈ codes := by
  have small := Nat.lt_succ_of_le (radixDigit?_bounds read).2
  exact List.mem_map.mpr ⟨c.toNat, List.mem_range.mpr small, Char.ofNat_toNat c⟩

theorem radixDigit?_sixteen_iff : radixDigit? 16 c = some n ↔ n < 16 ∧ c.toLower = digit n := by
  constructor
  · intro read
    have lower : ∀ c ∈ codes, ∀ n < 16, radixDigit? 16 c = some n → c.toLower = digit n := by decide +kernel
    have small := radixDigit?_lt read
    exact ⟨small, lower c (mem_codes read) n small read⟩
  · rintro ⟨small, same⟩
    rw [← radixDigit?_toLower, same]
    exact radixDigit?_digitChar small (Nat.le_refl 16)

theorem mem_digits_iff : c ∈ digits ↔ ∃ n < 16, c.toLower = digit n := by
  constructor
  · intro among
    have each : ∀ c ∈ digits, ∃ n < 16, c.toLower = digit n := by decide
    exact each c among
  · rintro ⟨n, small, same⟩
    have read := radixDigit?_sixteen_iff.mpr ⟨small, same⟩
    have every : ∀ c ∈ codes, (radixDigit? 16 c).isSome → c ∈ digits := by decide +kernel
    exact every c (mem_codes read) (read ▸ rfl)

end Digits

section Pairs

variable {high low : Char} {byte : UInt8}

theorem natOfDigits?_pair (high low : Char) :
    natOfDigits? 16 (withoutPlus [high, low]) = digitsValue? 16 [unsignedDigit high, low] := by
  by_cases plus : high = '+'
  · subst plus
    rfl
  · have same : withoutPlus [high, low] = [high, low] := withoutPlus.eq_2 _ fun rest same => plus (List.cons.inj same).1
    rw [same, unsignedDigit, if_neg plus]
    rfl

theorem digitsValue?_pair {n : Nat} : digitsValue? 16 [high, low] = some n ↔
    ∃ a b, radixDigit? 16 high = some a ∧ radixDigit? 16 low = some b ∧ n = a * 16 + b := by
  have first : digitsValue? 16 [high] = radixDigit? 16 high := by
    cases read : radixDigit? 16 high <;> simp [digitsValue?, read]
  rw [← List.singleton_append, digitsValue?_concat, first, Option.bind_eq_some_iff]
  simp only [Option.map_eq_some_iff, ← exists_and_left, @eq_comm _ _ n]

theorem pair?_eq_some_iff : pair? high low = some byte ↔
    (unsignedDigit high).toLower = digit (byte.toNat / 16) ∧ low.toLower = digit (byte.toNat % 16) := by
  have bound := byte.toNat_lt
  rw [pair?, natBelow?_eq, natOfDigits?_pair]
  constructor
  · intro read
    obtain ⟨n, value, rfl⟩ := Option.map_eq_some_iff.mp read
    obtain ⟨value, small⟩ := Option.filter_eq_some_iff.mp value
    obtain ⟨a, b, first, second, rfl⟩ := digitsValue?_pair.mp value
    obtain ⟨-, upper⟩ := radixDigit?_sixteen_iff.mp first
    obtain ⟨below, lower⟩ := radixDigit?_sixteen_iff.mp second
    have number : (UInt8.ofNat (a * 16 + b)).toNat = a * 16 + b :=
      UInt8.toNat_ofNat_of_lt' (of_decide_eq_true small)
    rw [number, upper, lower]
    constructor <;> congr 1 <;> omega
  · rintro ⟨first, second⟩
    have upper := radixDigit?_sixteen_iff.mpr ⟨(by omega : byte.toNat / 16 < 16), first⟩
    have lower := radixDigit?_sixteen_iff.mpr ⟨Nat.mod_lt byte.toNat (by decide : 0 < 16), second⟩
    have value := digitsValue?_pair.mpr ⟨_, _, upper, lower, rfl⟩
    rw [Nat.div_add_mod'] at value
    rw [value, Option.filter_some, if_pos (decide_eq_true bound), Option.map_some, UInt8.ofNat_toNat]

theorem exists_byte (first : high ∈ digits) (second : low ∈ digits) :
    ∃ byte : UInt8, high.toLower = digit (byte.toNat / 16) ∧ low.toLower = digit (byte.toNat % 16) := by
  obtain ⟨a, small, upper⟩ := mem_digits_iff.mp first
  obtain ⟨b, below, lower⟩ := mem_digits_iff.mp second
  have fits : a * 16 + b < 256 := by omega
  have front : (a * 16 + b) / 16 = a := by omega
  have back : (a * 16 + b) % 16 = b := by omega
  refine ⟨.ofNat (a * 16 + b), ?_⟩
  rw [UInt8.toNat_ofNat_of_lt' fits, front, back]
  exact ⟨upper, lower⟩

end Pairs

section Texts

variable {text : List Char} {bytes : List UInt8}

theorem encode_length (bytes : List UInt8) : (encode bytes).length = 2 * bytes.length := by
  induction bytes with
  | nil => rfl
  | cons byte bytes ih =>
    rw [encode, List.flatMap_cons, List.length_append, ← encode, ih, List.length_cons, encodeByte, List.length_cons,
      List.length_singleton]
    omega

theorem mem_encode {c : Char} (among : c ∈ encode bytes) : ∃ n < 16, c = digit n := by
  obtain ⟨byte, -, here⟩ := List.mem_flatMap.mp among
  have bound := byte.toNat_lt
  rcases List.mem_pair.mp here with rfl | rfl
  · exact ⟨_, by omega, rfl⟩
  · exact ⟨_, Nat.mod_lt _ (by decide), rfl⟩

theorem Spells.length (spells : Spells text bytes) : text.length = 2 * bytes.length := by
  rw [← encode_length, ← spells, List.length_map]

theorem spells_cons {high low : Char} : Spells (high :: low :: text) bytes ↔
    ∃ byte others, bytes = byte :: others ∧
      (high.toLower = digit (byte.toNat / 16) ∧ low.toLower = digit (byte.toNat % 16)) ∧ Spells text others := by
  cases bytes with
  | nil => simp [Spells, encode]
  | cons byte others => simp [Spells, encode, encodeByte, and_assoc]

theorem pairs?_cons {high low : Char} : pairs? (high :: low :: text) = some bytes ↔
    ∃ byte others, bytes = byte :: others ∧ pair? high low = some byte ∧ pairs? text = some others := by
  rw [pairs?]
  split
  · rename_i byte others first rest
    rw [first, rest]
    constructor
    · rintro ⟨⟩
      exact ⟨byte, others, rfl, rfl, rfl⟩
    · rintro ⟨_, _, rfl, ⟨⟩, ⟨⟩⟩
      rfl
  · rename_i unread
    exact ⟨nofun, fun ⟨byte, others, _, first, rest⟩ => absurd rest (unread byte others first)⟩

theorem pairs?_eq_some_iff : pairs? text = some bytes ↔ Spells (unsigned text) bytes := by
  induction text using List.twoStepInduction generalizing bytes with
  | nil =>
    cases bytes with
    | nil => exact iff_of_true rfl rfl
    | cons byte bytes => exact ⟨nofun, nofun⟩
  | singleton c => exact ⟨nofun, fun spells => absurd spells.length (by simp [unsigned]; omega)⟩
  | cons_cons high low rest ih _ => simp only [pairs?_cons, unsigned, spells_cons, pair?_eq_some_iff, ih]

theorem digit_of_spells {c : Char} (spells : Spells text bytes) (among : c ∈ text) : c ∈ digits := by
  have here : c.toLower ∈ encode bytes := spells ▸ List.mem_map_of_mem among
  exact mem_digits_iff.mpr (mem_encode here)

theorem isHex_iff : IsHex text ↔ ∃ bytes, Spells text bytes := by
  constructor
  · rintro ⟨even, all⟩
    induction text using List.twoStepInduction with
    | nil => exact ⟨[], rfl⟩
    | singleton c => simp at even
    | cons_cons high low rest ih _ =>
      obtain ⟨byte, paired⟩ := exists_byte (all high (by simp)) (all low (by simp))
      obtain ⟨others, spells⟩ := ih (by simp only [List.length_cons] at even; omega) fun c among => all c (by simp [among])
      exact ⟨byte :: others, spells_cons.mpr ⟨byte, others, rfl, paired, spells⟩⟩
  · rintro ⟨bytes, spells⟩
    exact ⟨by rw [spells.length, Nat.mul_mod_right], fun c => digit_of_spells spells⟩

theorem unsigned_length (text : List Char) : (unsigned text).length = text.length := by
  induction text using List.twoStepInduction with
  | nil => rfl
  | singleton c => rfl
  | cons_cons high low rest ih _ => rw [unsigned, List.length_cons, List.length_cons, ih]; rfl

theorem unsigned_plain (plain : '+' ∉ text) : unsigned text = text := by
  induction text using List.twoStepInduction with
  | nil => rfl
  | singleton c => rfl
  | cons_cons high low rest ih _ =>
    have first : high ≠ '+' := fun plus => plain (plus ▸ List.mem_cons_self)
    have others : '+' ∉ rest := fun among => plain (List.mem_cons_of_mem _ (List.mem_cons_of_mem _ among))
    rw [unsigned, unsignedDigit, if_neg first, ih others]

theorem mem_unsigned {c : Char} (among : c ∈ text) : c = '+' ∨ c ∈ unsigned text := by
  induction text using List.twoStepInduction with
  | nil => exact .inr among
  | singleton d => exact .inr among
  | cons_cons high low rest ih _ =>
    rcases List.mem_cons.mp among with rfl | among
    · by_cases plus : c = '+'
      · exact .inl plus
      · rw [unsigned, unsignedDigit, if_neg plus]
        exact .inr List.mem_cons_self
    · rcases List.mem_cons.mp among with rfl | among
      · exact .inr (List.mem_cons_of_mem _ List.mem_cons_self)
      · exact (ih among).imp_right fun here => List.mem_cons_of_mem _ (List.mem_cons_of_mem _ here)

theorem utf8ByteSize_of_spells (spells : Spells (unsigned text) bytes) :
    (String.ofList text).utf8ByteSize = text.length := by
  have narrow : ∀ c ∈ text, c.utf8Size = 1 := by
    intro c among
    rcases mem_unsigned among with rfl | here
    · rfl
    · have each : ∀ c ∈ digits, c.utf8Size = 1 := by decide
      exact each c (digit_of_spells spells here)
  -- With single bytes only, the induction needs nothing of what is spelled.
  rw [String.utf8ByteSize_ofList]
  clear spells
  induction text with
  | nil => rfl
  | cons c text ih =>
    rw [String.utf8Len_cons, ih fun d among => narrow d (List.mem_cons_of_mem _ among), narrow c List.mem_cons_self,
      List.length_cons]

theorem decode_eq_ok_iff : decode text = .ok bytes ↔ Spells (unsigned text) bytes := by
  rw [← pairs?_eq_some_iff]
  unfold decode
  split
  · rename_i odd
    refine ⟨nofun, fun read => ?_⟩
    have spells := pairs?_eq_some_iff.mp read
    have even := spells.length
    rw [unsigned_length, ← utf8ByteSize_of_spells spells] at even
    simp [even] at odd
  · cases pairs? text <;> simp

end Texts

end FeatureLayers.Text.Hex
