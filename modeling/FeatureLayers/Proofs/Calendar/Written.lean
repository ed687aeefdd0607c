import FeatureLayers.Calendar.Reading
import FeatureLayers.Proofs.Numeric.Digits

namespace FeatureLayers

theorem Date.fields_lt (d : Date) : d.month < 100 ∧ d.day < 100 := by
  have valid := d.valid
  have days : daysInMonth d.year d.month ≤ 31 := by
    unfold daysInMonth
    grind
  simp only [isDate, Bool.and_eq_true, decide_eq_true_eq] at valid
  omega

theorem Time.fields_lt (t : Time) : t.hour < 100 ∧ t.minute < 100 := by
  have valid := t.valid
  simp only [isTime, Bool.and_eq_true, decide_eq_true_eq] at valid
  omega

theorem Date.of?_self (d : Date) : Date.of? d.year d.month d.day = some d := dif_pos d.valid

namespace Calendar

open Text (isBlank trimStart)

section Front

variable {digits rest : List Char}

theorem isBlank_of_digit {c : Char} (digit : c.isDigit) : isBlank c = false := by
  have bounds : 48 ≤ c.toNat ∧ c.toNat ≤ 57 := by
    simpa [Char.isDigit, UInt32.le_iff_toNat_le] using digit
  unfold isBlank
  dsimp only
  grind

theorem trimStart_cons {c : Char} (solid : isBlank c = false) (rest : List Char) :
    trimStart (c :: rest) = c :: rest := List.dropWhile_cons_of_neg (by simp [solid])

theorem trimStart_digits (all : ∀ c ∈ digits, c.isDigit) (nonempty : digits ≠ []) (rest : List Char) :
    trimStart (digits ++ rest) = digits ++ rest := by
  obtain ⟨c, others, rfl⟩ := List.exists_cons_of_ne_nil nonempty
  exact trimStart_cons (isBlank_of_digit (all c List.mem_cons_self)) _

theorem Spacing.skip_cons (spacing : Spacing) {c : Char} (solid : isBlank c = false) (rest : List Char) :
    spacing.skip (c :: rest) = c :: rest := by
  cases spacing with
  | tight => rfl
  | loose => exact trimStart_cons solid rest

theorem takeChar_self (c : Char) (rest : List Char) : takeChar c (c :: rest) = some rest := if_pos rfl

theorem takeWhile_take_digits (all : ∀ c ∈ digits, c.isDigit) {most : Nat} (short : digits.length ≤ most)
    (ends : digits.length = most ∨ NoDigit rest) : ((digits ++ rest).take most).takeWhile isDigit = digits := by
  rw [List.take_append, List.take_of_length_le short]
  apply takeWhile_digits all
  rcases ends with full | ends
  · rw [full, Nat.sub_self, List.take_zero]
    exact noDigit_nil
  · intro c first
    rw [List.head?_take] at first
    split at first
    · cases first
    · exact ends c first

theorem takeNumber_digits (all : ∀ c ∈ digits, c.isDigit) {least most : Nat} (long : least ≤ digits.length)
    (short : digits.length ≤ most) (ends : digits.length = most ∨ NoDigit rest) :
    takeNumber least most (digits ++ rest) = (natOfDigits? 10 digits).map (·, rest) := by
  simp only [takeNumber, takeWhile_take_digits all short ends, List.drop_left]
  rw [if_neg (Nat.not_lt_of_le long)]

theorem takeField_paddedDigits {n : Nat} (fits : n < 100) (rest : List Char) :
    takeField (paddedDigits 2 n ++ rest) = some (n, rest) := by
  have width : (paddedDigits 2 n).length = 2 := paddedDigits_length fits (by decide)
  rw [takeField, trimStart_digits (paddedDigits_digits 2 n) (paddedDigits_ne_nil 2 n),
    takeNumber_digits (paddedDigits_digits 2 n) (by omega) (by omega) (.inl width), natOfDigits?_paddedDigits,
    Option.map_some]

theorem takeNanos_paddedDigits {width n : Nat} (fits : n < 10 ^ width) (wide : 0 < width) (most : width ≤ 9)
    (ends : NoDigit rest) : takeNanos (paddedDigits width n ++ rest) = some (n * Nat.pow 10 (9 - width), rest) := by
  have length := paddedDigits_length fits wide
  have taken : ((paddedDigits width n ++ rest).take 9).takeWhile isDigit = paddedDigits width n :=
    takeWhile_take_digits (paddedDigits_digits width n) (by omega) (.inr ends)
  have dropped : (paddedDigits width n ++ rest).drop width = rest := List.drop_left' length
  simp only [takeNanos, taken, natOfDigits?_paddedDigits, Option.map_some, length, dropped, dropWhile_noDigit ends]

end Front

theorem takeYear_unsigned {digits rest : List Char} (all : ∀ c ∈ digits, c.isDigit) (nonempty : digits ≠ [])
    (short : digits.length ≤ 4) (ends : digits.length = 4 ∨ NoDigit rest) :
    takeYear (digits ++ rest) = (natOfDigits? 10 digits).map fun (n : Nat) => ((n : Int), rest) := by
  have long : 1 ≤ digits.length := List.length_pos_iff.mpr nonempty
  have taken := takeNumber_digits all long short ends
  rw [takeYear, trimStart_digits all nonempty]
  obtain ⟨c, others, rfl⟩ := List.exists_cons_of_ne_nil nonempty
  have digit := all c List.mem_cons_self
  split
  · rename_i tail signed
    rw [(List.cons.inj signed).1] at digit
    exact absurd digit (by decide)
  · rename_i tail signed
    rw [(List.cons.inj signed).1] at digit
    exact absurd digit (by decide)
  · rw [taken, Option.map_map]
    rfl

theorem takeDigits_paddedDigits (width n : Nat) {rest : List Char} (ends : NoDigit rest) :
    takeDigits (paddedDigits width n ++ rest) = some (n, rest) := by
  have long : 1 ≤ (paddedDigits width n).length := List.length_pos_iff.mpr (paddedDigits_ne_nil width n)
  rw [takeDigits, takeNumber_digits (paddedDigits_digits width n) long (by simp) (.inr ends),
    natOfDigits?_paddedDigits, Option.map_some]

theorem takeYear_yearChars (year : Int) {rest : List Char} (ends : NoDigit rest) :
    takeYear (Date.yearChars year ++ rest) = some (year, rest) := by
  unfold Date.yearChars
  split
  · have width : (paddedDigits 4 year.natAbs).length = 4 := paddedDigits_length (by omega) (by decide)
    rw [takeYear_unsigned (paddedDigits_digits 4 _) (paddedDigits_ne_nil 4 _) (by omega) (.inl width),
      natOfDigits?_paddedDigits, Option.map_some, Int.natAbs_of_nonneg (by omega)]
  · split
    · rw [List.cons_append, takeYear, trimStart_cons (by decide)]
      simp only [takeDigits_paddedDigits 4 _ ends, Option.map_some, Option.some.injEq, Prod.mk.injEq, and_true]
      omega
    · rw [List.cons_append, takeYear, trimStart_cons (by decide)]
      simp only [takeDigits_paddedDigits 4 _ ends, Option.map_some, Option.some.injEq, Prod.mk.injEq, and_true]
      omega

theorem takeDate_chars (spacing : Spacing) (d : Date) (rest : List Char) :
    takeDate spacing (d.chars ++ rest) = some (d, rest) := by
  obtain ⟨month, day⟩ := d.fields_lt
  have dash (rest : List Char) : spacing.skip ('-' :: rest) = '-' :: rest := spacing.skip_cons (by decide) rest
  have written : d.chars ++ rest =
      Date.yearChars d.year ++ '-' :: (paddedDigits 2 d.month ++ '-' :: (paddedDigits 2 d.day ++ rest)) := by
    simp [Date.chars]
  rw [written, takeDate, takeYear_yearChars d.year (noDigit_cons _ (by decide))]
  simp only [Option.bind_eq_bind, Option.bind_some, dash, takeChar_self, takeField_paddedDigits month,
    takeField_paddedDigits day, d.of?_self]

/-- What follows a time: neither a digit nor a point. -/
def EndsTime (rest : List Char) : Prop := ∀ c ∈ rest.head?, isDigit c = false ∧ c ≠ '.'

theorem endsTime_nil : EndsTime [] := nofun

theorem EndsTime.noDigit {rest : List Char} (ends : EndsTime rest) : NoDigit rest := fun c first => (ends c first).1

theorem takeFraction_none {rest : List Char} (ends : EndsTime rest) : takeFraction rest = some (0, rest) := by
  unfold takeFraction
  split
  · exact absurd rfl (ends '.' rfl).2
  · rfl

theorem takeFraction_scaled (width : Nat) {nano : Nat} (wide : 0 < width) (most : width ≤ 9) (small : nano < 10 ^ 9)
    (whole : nano % 10 ^ (9 - width) = 0) {rest : List Char} (ends : EndsTime rest) :
    takeFraction ('.' :: (paddedDigits width (nano / 10 ^ (9 - width)) ++ rest)) = some (nano, rest) := by
  have fits : nano / 10 ^ (9 - width) < 10 ^ width := by
    apply Nat.div_lt_of_lt_mul
    rwa [← Nat.pow_add, Nat.sub_add_cancel most]
  have value : nano / 10 ^ (9 - width) * 10 ^ (9 - width) = nano := Nat.div_mul_cancel (Nat.dvd_of_mod_eq_zero whole)
  rw [takeFraction, takeNanos_paddedDigits fits wide most ends.noDigit]
  exact congrArg (fun n => some (n, rest)) value

theorem takeFraction_fractionChars {nano : Nat} (small : nano < billion) {rest : List Char} (ends : EndsTime rest) :
    takeFraction (Time.fractionChars nano ++ rest) = some (nano, rest) := by
  unfold Time.fractionChars
  split
  · rename_i none
    rw [none]
    exact takeFraction_none ends
  · split
    · exact takeFraction_scaled 3 (by decide) (by decide) small ‹_› ends
    · split
      · exact takeFraction_scaled 6 (by decide) (by decide) small ‹_› ends
      · have full := takeFraction_scaled 9 (by decide) (by decide) small (Nat.mod_one nano) ends
        rwa [Nat.sub_self, Nat.pow_zero, Nat.div_one] at full

theorem takeHourMinute_paddedDigits (spacing : Spacing) {hour minute : Nat} (hours : hour < 100) (minutes : minute < 100)
    (rest : List Char) :
    takeHourMinute spacing (paddedDigits 2 hour ++ ':' :: (paddedDigits 2 minute ++ rest)) =
      some ((hour, minute), rest) := by
  have colon (rest : List Char) : spacing.skip (':' :: rest) = ':' :: rest := spacing.skip_cons (by decide) rest
  rw [takeHourMinute, takeField_paddedDigits hours]
  simp only [Option.bind_eq_bind, Option.bind_some, colon, takeChar_self, takeField_paddedDigits minutes]

theorem takeSecond_paddedDigits (spacing : Spacing) {second nano : Nat} (seconds : second ≤ 60)
    (nanos : nano < billion) {rest : List Char} (ends : EndsTime rest) :
    takeSecond spacing (':' :: (paddedDigits 2 second ++ (Time.fractionChars nano ++ rest))) =
      some ((second, nano), rest) := by
  rw [takeSecond, spacing.skip_cons (by decide), takeChar_self]
  simp only [Option.bind_eq_bind, Option.bind_some, takeField_paddedDigits (Nat.lt_of_le_of_lt seconds (by decide)),
    takeFraction_fractionChars nanos ends]
  rw [if_pos seconds]

theorem chars_eq (t : Time) : ∃ second nano, second ≤ 60 ∧ nano < billion ∧
    t.chars = paddedDigits 2 t.hour ++ ':' :: (paddedDigits 2 t.minute ++
      ':' :: (paddedDigits 2 second ++ Time.fractionChars nano)) ∧
    Time.ofClock? t.hour t.minute second nano = some t := by
  obtain ⟨hour, minute, second, nano, valid⟩ := t
  have bounds := valid
  have size : billion = 1000000000 := rfl
  simp only [isTime, Bool.and_eq_true, Bool.or_eq_true, decide_eq_true_eq] at bounds
  by_cases leap : billion ≤ nano
  · -- A leap second is held in the nanoseconds and written as second 60.
    obtain rfl : second = 59 := by omega
    refine ⟨60, nano - billion, Nat.le_refl 60, by omega, by simp [Time.chars, leap], ?_⟩
    have whole : billion + (nano - billion) = nano := by omega
    rw [Time.ofClock?, if_pos rfl, whole]
    exact dif_pos valid
  · refine ⟨second, nano, by omega, by omega, by simp [Time.chars, leap], ?_⟩
    rw [Time.ofClock?, if_neg (by omega)]
    exact dif_pos valid

theorem takeTime_chars (spacing : Spacing) (t : Time) {rest : List Char} (ends : EndsTime rest) :
    takeTime spacing (t.chars ++ rest) = some (t, rest) := by
  obtain ⟨hours, minutes⟩ := t.fields_lt
  obtain ⟨second, nano, seconds, nanos, written, clock⟩ := chars_eq t
  have timed := takeHourMinute_paddedDigits spacing hours minutes
    (':' :: (paddedDigits 2 second ++ (Time.fractionChars nano ++ rest)))
  have chars : t.chars ++ rest = paddedDigits 2 t.hour ++ ':' :: (paddedDigits 2 t.minute ++
      ':' :: (paddedDigits 2 second ++ (Time.fractionChars nano ++ rest))) := by
    simp [written]
  rw [chars, takeTime, timed]
  simp only [Option.bind_eq_bind, Option.bind_some, takeSecond_paddedDigits spacing seconds nanos ends, clock]

theorem documentDate?_chars (d : Date) : documentDate? d.chars = some d := by
  have taken := takeDate_chars .loose d []
  rw [List.append_nil] at taken
  rw [documentDate?, taken]
  rfl

theorem documentDateTime?_isoChars (d : DateTime) : documentDateTime? d.isoChars = some d := by
  have timed := takeTime_chars .loose d.time endsTime_nil
  rw [List.append_nil] at timed
  rw [documentDateTime?, DateTime.isoChars, takeDate_chars]
  simp only [Option.bind_eq_bind, Option.bind_some, trimStart_cons (show isBlank 'T' = false by decide), takeChar_self,
    timed]
  rfl

theorem documentDateTime?_dateChars (d : Date) : documentDateTime? d.chars = none := by
  have taken := takeDate_chars .loose d []
  rw [List.append_nil] at taken
  rw [documentDateTime?, taken]
  rfl

theorem documentTime?_chars (t : Time) : documentTime? t.chars = some t := by
  obtain ⟨hours, minutes⟩ := t.fields_lt
  obtain ⟨second, nano, seconds, nanos, written, clock⟩ := chars_eq t
  have timed := takeSecond_paddedDigits .loose seconds nanos endsTime_nil
  rw [List.append_nil] at timed
  rw [documentTime?, written, takeHourMinute_paddedDigits .loose hours minutes]
  simp only [Option.bind_eq_bind, Option.bind_some, timed, Option.getD_some, clock]
  rfl

theorem takeDate_timeChars (t : Time) : takeDate .loose t.chars = none := by
  obtain ⟨hours, -⟩ := t.fields_lt
  obtain ⟨second, nano, -, -, written, -⟩ := chars_eq t
  have width : (paddedDigits 2 t.hour).length = 2 := paddedDigits_length hours (by decide)
  -- The hour is taken for a year, and a colon stands where its dash would.
  rw [takeDate, written, takeYear_unsigned (paddedDigits_digits 2 _) (paddedDigits_ne_nil 2 _) (by omega)
    (.inr (noDigit_cons _ (by decide))), natOfDigits?_paddedDigits]
  simp only [Option.map_some, Option.bind_eq_bind, Option.bind_some, Spacing.skip_cons .loose (show isBlank ':' = false by
    decide)]
  rfl

theorem documentDate?_timeChars (t : Time) : documentDate? t.chars = none := by
  rw [documentDate?, takeDate_timeChars]
  rfl

theorem documentDateTime?_timeChars (t : Time) : documentDateTime? t.chars = none := by
  rw [documentDateTime?, takeDate_timeChars]
  rfl

end Calendar

end FeatureLayers
