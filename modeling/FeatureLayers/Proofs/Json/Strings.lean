import FeatureLayers.Json.Basic
import FeatureLayers.Json.Reading

namespace FeatureLayers.Json

def isCoded (c : Char) : Bool :=
  c.toNat < 32 && c.toNat != 8 && c.toNat != 12 && c != '\n' && c != '\r' && c != '\t'

def unitOf (c : Char) : Unit := if isCoded c then .code c.toNat else .char c

def before (unit : Unit) (read : List Unit × List Char) : List Unit × List Char := (unit :: read.1, read.2)

theorem hex4?_control {n : Nat} (control : n < 32) (rest : List Char) :
    hex4? ('0' :: '0' :: Nat.digitChar (n / 16) :: Nat.digitChar (n % 16) :: rest) = some (n, rest) := by
  have value : ∀ n < 32, natOfDigits? 16 ['0', '0', Nat.digitChar (n / 16), Nat.digitChar (n % 16)] = some n := by
    decide
  rw [hex4?, value n control, Option.map_some]

theorem takeUnits_letter (fuel : Nat) (rest : List Char) :
    takeUnits (fuel + 1) ('\\' :: '"' :: rest) = (takeUnits fuel rest).map (before (.char '"')) ∧
    takeUnits (fuel + 1) ('\\' :: '\\' :: rest) = (takeUnits fuel rest).map (before (.char '\\')) ∧
    takeUnits (fuel + 1) ('\\' :: 'n' :: rest) = (takeUnits fuel rest).map (before (.char '\n')) ∧
    takeUnits (fuel + 1) ('\\' :: 'r' :: rest) = (takeUnits fuel rest).map (before (.char '\r')) ∧
    takeUnits (fuel + 1) ('\\' :: 't' :: rest) = (takeUnits fuel rest).map (before (.char '\t')) ∧
    takeUnits (fuel + 1) ('\\' :: 'b' :: rest) = (takeUnits fuel rest).map (before (.char (Char.ofNat 8))) ∧
    takeUnits (fuel + 1) ('\\' :: 'f' :: rest) = (takeUnits fuel rest).map (before (.char (Char.ofNat 12))) := by
  cases read : takeUnits fuel rest <;> simp [takeUnits, read, before]

theorem takeUnits_code (fuel : Nat) {n : Nat} (control : n < 32) (rest : List Char) :
    takeUnits (fuel + 1)
      ('\\' :: 'u' :: '0' :: '0' :: Nat.digitChar (n / 16) :: Nat.digitChar (n % 16) :: rest) =
        (takeUnits fuel rest).map (before (.code n)) := by
  cases read : takeUnits fuel rest <;> simp [takeUnits, hex4?_control control, read, before]

theorem takeUnits_plain (fuel : Nat) {c : Char} (quote : c ≠ '"') (backslash : c ≠ '\\') (plain : ¬c.toNat < 32)
    (rest : List Char) : takeUnits (fuel + 1) (c :: rest) = (takeUnits fuel rest).map (before (.char c)) := by
  cases read : takeUnits fuel rest <;> simp [takeUnits, backslash, plain, read, before]

theorem takeUnits_escapeChar (fuel : Nat) (c : Char) (rest : List Char) :
    takeUnits (fuel + 1) (escapeChar c ++ rest) = (takeUnits fuel rest).map (before (unitOf c)) := by
  -- In the order in which a character is looked for among the escaped ones.
  obtain ⟨quote, backslash, newLine, carriage, tab, back, feed⟩ := takeUnits_letter fuel rest
  by_cases h1 : c = '"'
  · subst h1; exact quote
  by_cases h2 : c = '\\'
  · subst h2; exact backslash
  by_cases h3 : c = '\n'
  · subst h3; exact newLine
  by_cases h4 : c = '\r'
  · subst h4; exact carriage
  by_cases h5 : c = '\t'
  · subst h5; exact tab
  by_cases h6 : c.toNat = 8
  · obtain rfl : c = Char.ofNat 8 := by rw [← h6, Char.ofNat_toNat]
    exact back
  by_cases h7 : c.toNat = 12
  · obtain rfl : c = Char.ofNat 12 := by rw [← h7, Char.ofNat_toNat]
    exact feed
  by_cases control : c.toNat < 32
  · have coded : unitOf c = .code c.toNat := by simp [unitOf, isCoded, control, h3, h4, h5, h6, h7]
    have written : escapeChar c =
        ['\\', 'u', '0', '0', Nat.digitChar (c.toNat / 16), Nat.digitChar (c.toNat % 16)] := by
      simp [escapeChar, h1, h2, h3, h4, h5, h6, h7, control]
    rw [coded, written]
    exact takeUnits_code fuel control rest
  · have self : unitOf c = .char c := by simp [unitOf, isCoded, control]
    have written : escapeChar c = [c] := by simp [escapeChar, h1, h2, h3, h4, h5, h6, h7, control]
    rw [self, written]
    exact takeUnits_plain fuel h1 h2 control rest

theorem takeUnits_escaped {text : List Char} {fuel : Nat} (enough : text.length < fuel) (rest : List Char) :
    takeUnits fuel (text.flatMap escapeChar ++ '"' :: rest) = some (text.map unitOf, rest) := by
  obtain ⟨fuel, rfl⟩ : ∃ n, fuel = n + 1 := ⟨fuel - 1, by omega⟩
  induction text generalizing fuel with
  | nil => simp [takeUnits]
  | cons c text ih =>
    rw [List.length_cons] at enough
    obtain ⟨fuel, rfl⟩ : ∃ n, fuel = n + 1 := ⟨fuel - 1, by omega⟩
    rw [List.flatMap_cons, List.append_assoc, takeUnits_escapeChar, ih fuel (by omega)]
    rfl

theorem unitsText?_code {unit : Nat} (low : unit < 0xd800) (units : List Unit) :
    unitsText? (.code unit :: units) = (unitsText? units).map (Char.ofNat unit :: ·) := by
  have notHigh : isHighSurrogate unit = false := by
    rw [isHighSurrogate, decide_eq_false (by omega), Bool.false_and]
  have notLow : isLowSurrogate unit = false := by
    rw [isLowSurrogate, decide_eq_false (by omega), Bool.false_and]
  cases units with
  | nil => simp [unitsText?, notHigh, notLow]
  | cons next units => cases next <;> simp [unitsText?, notHigh, notLow]

theorem unitsText?_map_unitOf (text : List Char) : unitsText? (text.map unitOf) = some text := by
  induction text with
  | nil => rfl
  | cons c text ih =>
    rw [List.map_cons]
    cases coded : isCoded c with
    | true =>
      have control : c.toNat < 32 := by
        simp only [isCoded, Bool.and_eq_true, decide_eq_true_eq] at coded
        omega
      rw [unitOf, if_pos coded, unitsText?_code (by omega), ih, Option.map_some, Char.ofNat_toNat]
    | false =>
      rw [unitOf, coded, if_neg Bool.false_ne_true, unitsText?, ih, Option.map_some]

theorem length_le_flatMap_escapeChar (text : List Char) : text.length ≤ (text.flatMap escapeChar).length := by
  induction text with
  | nil => exact Nat.le_refl 0
  | cons c text ih =>
    have nonempty : 0 < (escapeChar c).length := by
      unfold escapeChar
      grind
    rw [List.flatMap_cons, List.length_append, List.length_cons]
    omega

theorem takeToken_quoted (text : String) (rest : List Char) :
    takeToken (quoted text ++ rest) = some (.string (some text), rest) := by
  have enough : text.toList.length < (text.toList.flatMap escapeChar ++ '"' :: rest).length + 1 := by
    have length := length_le_flatMap_escapeChar text.toList
    rw [List.length_append]
    omega
  have written : quoted text ++ rest = '"' :: (text.toList.flatMap escapeChar ++ '"' :: rest) := by
    simp [quoted]
  rw [written, takeToken, takeUnits_escaped enough]
  simp [unitsText?_map_unitOf]

end FeatureLayers.Json
