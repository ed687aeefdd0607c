import FeatureLayers.Decode.Convert
import FeatureLayers.Proofs.Calendar.Moments
import FeatureLayers.Proofs.Calendar.Written
import Mathlib.Data.List.Basic

namespace FeatureLayers

namespace Calendar

open Text (isBlank trimStart)

structure Offset where
  isNegative : Bool
  hours : Nat
  minutes : Nat
  valid : hours < 24 ∧ minutes < 60

namespace Offset

variable (o : Offset)

def sign : Char := if o.isNegative then '-' else '+'

def seconds : Int :=
  let seconds : Int := (o.hours * 3600 + o.minutes * 60 : Nat)
  if o.isNegative then -seconds else seconds

def chars (between : List Char) : List Char :=
  o.sign :: (paddedDigits 2 o.hours ++ (between ++ paddedDigits 2 o.minutes))

theorem seconds_bounds : o.seconds.natAbs < 86400 ∧ o.seconds % 60 = 0 := by
  obtain ⟨isNegative, hours, minutes, valid⟩ := o
  cases isNegative <;> simp only [seconds, Bool.false_eq_true, if_true, if_false] <;> omega

end Offset

theorem takeNumber_paddedDigits {width n : Nat} (fits : n < 10 ^ width) (wide : 0 < width) (rest : List Char) :
    takeNumber width width (paddedDigits width n ++ rest) = some (n, rest) := by
  have length := paddedDigits_length fits wide
  rw [takeNumber_digits (paddedDigits_digits width n) (Nat.le_of_eq length.symm) (Nat.le_of_eq length) (.inl length),
    natOfDigits?_paddedDigits, Option.map_some]

theorem takeOffset_chars (o : Offset) {joint : OffsetJoint} {between : List Char}
    (joins : joint.take (between ++ paddedDigits 2 o.minutes) = some (paddedDigits 2 o.minutes)) :
    takeOffset joint (o.chars between) = some (o.seconds, []) := by
  obtain ⟨isNegative, hours, minutes, valid⟩ := o
  have first := takeNumber_paddedDigits (show hours < 10 ^ 2 by omega) (by decide)
    (between ++ paddedDigits 2 minutes)
  have second := takeNumber_paddedDigits (show minutes < 10 ^ 2 by omega) (by decide) []
  rw [List.append_nil] at second
  have below := valid.2
  cases isNegative <;>
    simp [takeOffset, Offset.chars, Offset.sign, Offset.seconds, first, joins, second, below, minusSign]

theorem colon_joins (n : Nat) : OffsetJoint.take .colon ([':'] ++ paddedDigits 2 n) = some (paddedDigits 2 n) :=
  takeChar_self ':' _

theorem nothing_joins (n : Nat) :
    OffsetJoint.take .colonsAndBlanks ([] ++ paddedDigits 2 n) = some (paddedDigits 2 n) := by
  obtain ⟨c, others, written⟩ := List.exists_cons_of_ne_nil (paddedDigits_ne_nil 2 n)
  have digit := paddedDigits_digits 2 n c (written ▸ List.mem_cons_self)
  have other : c ≠ ':' := by
    rintro rfl
    exact absurd digit (by decide)
  rw [List.nil_append, OffsetJoint.take, written, List.dropWhile_cons_of_neg (by simp [other, isBlank_of_digit digit])]

theorem endsTime_offset (o : Offset) (between : List Char) : EndsTime (o.chars between) := by
  rintro c ⟨⟩
  unfold Offset.sign
  split <;> decide

section Timestamps

variable {d u : DateTime} {joint : Char} {rest : List Char}

def joined (d : DateTime) (joint : Char) : List Char := d.date.chars ++ joint :: d.time.chars

theorem timestamp?_joined (least : 0 ≤ d.date.year) (most : d.date.year ≤ 9999) (joins : joint = ' ' ∨ joint = 'T')
    (ends : EndsTime rest) (unzoned : ∀ c ∈ rest.head?, c ≠ 'Z' ∧ c ≠ 'z') :
    timestamp? (joined d joint ++ rest) = (takeOffset .colon rest).bind fun (offset, rest) =>
      if rest.isEmpty then withOffset? d offset else none := by
  obtain ⟨months, days⟩ := d.date.fields_lt
  obtain ⟨hours, minutes⟩ := d.time.fields_lt
  obtain ⟨second, nano, seconds, nanos, written, clock⟩ := chars_eq d.time
  have year : (d.date.year.natAbs : Int) = d.date.year := Int.natAbs_of_nonneg least
  have letter : (joint = 'T' || joint = 't' || joint = ' ') = true := by
    rcases joins with rfl | rfl <;> decide
  have text : joined d joint ++ rest = paddedDigits 4 d.date.year.natAbs ++ ('-' :: (paddedDigits 2 d.date.month ++
      ('-' :: (paddedDigits 2 d.date.day ++ (joint :: (paddedDigits 2 d.time.hour ++ (':' ::
        (paddedDigits 2 d.time.minute ++ (':' :: (paddedDigits 2 second ++
          (Time.fractionChars nano ++ rest))))))))))) := by
    simp [joined, Date.chars, Date.yearChars, least, most, written]
  have years : d.date.year.natAbs < 10 ^ 4 := by omega
  have digits (n : Nat) (fits : n < 10 ^ 2) := takeNumber_paddedDigits fits (by decide)
  -- The fields are read one by one from the left. To simplify under all of their binders at once takes too many steps.
  rw [text, timestamp?, takeNumber_paddedDigits years (by decide)]
  dsimp only [Option.bind_eq_bind, Option.bind_some]
  rw [takeChar_self, Option.bind_some, digits d.date.month months]
  dsimp only [Option.bind_some]
  rw [takeChar_self, Option.bind_some, digits d.date.day days]
  dsimp only [Option.bind_some]
  rw [if_pos letter, digits d.time.hour hours]
  dsimp only [Option.bind_some]
  rw [takeChar_self, Option.bind_some, digits d.time.minute minutes]
  dsimp only [Option.bind_some]
  rw [takeChar_self, Option.bind_some, digits second (by omega)]
  dsimp only [Option.bind_some]
  rw [takeFraction_fractionChars nanos ends]
  dsimp only [Option.bind_some]
  rw [year, d.date.of?_self, clock]
  dsimp only [Option.bind_some]
  split
  · exact absurd rfl (unzoned 'Z' rfl).1
  · exact absurd rfl (unzoned 'z' rfl).2
  · rfl

theorem takeDateTime_blank (d : DateTime) (ends : EndsTime rest) :
    takeDateTime .blanks (joined d ' ' ++ rest) = some (d, rest) := by
  obtain ⟨hours, -⟩ := d.time.fields_lt
  obtain ⟨second, nano, -, -, written, -⟩ := chars_eq d.time
  have skipped : trimStart (' ' :: (d.time.chars ++ rest)) = d.time.chars ++ rest := by
    rw [written, List.append_assoc]
    exact (List.dropWhile_cons_of_pos (by decide)).trans
      (trimStart_digits (paddedDigits_digits 2 _) (paddedDigits_ne_nil 2 _) _)
  rw [joined, List.append_assoc, List.cons_append, takeDateTime, takeDate_chars]
  simp only [Option.bind_eq_bind, Option.bind_some, Joint.take, skipped, takeTime_chars .tight d.time ends]

theorem takeDateTime_letter (d : DateTime) (ends : EndsTime rest) :
    takeDateTime .letter (joined d 'T' ++ rest) = some (d, rest) := by
  rw [joined, List.append_assoc, List.cons_append, takeDateTime, takeDate_chars]
  simp only [Option.bind_eq_bind, Option.bind_some, Joint.take, takeChar_self, takeTime_chars .tight d.time ends]

theorem takeDateTime_letter_for_blank (d : DateTime) (rest : List Char) :
    takeDateTime .blanks (joined d 'T' ++ rest) = none := by
  rw [joined, List.append_assoc, List.cons_append, takeDateTime, takeDate_chars]
  rfl

end Timestamps

end Calendar

namespace Decode.Converter

open Calendar

section Moments

variable {d u : DateTime} {joint : Char}

theorem readDateTime?_joined (least : 0 ≤ d.date.year) (most : d.date.year ≤ 9999) (joins : joint = ' ' ∨ joint = 'T') :
    readDateTime? (joined d joint) = some d := by
  have plain : joined d joint = joined d joint ++ [] := (List.append_nil _).symm
  have zoneless : timestamp? (joined d joint ++ []) = none :=
    timestamp?_joined least most joins endsTime_nil nofun
  rw [plain, readDateTime?, zoneless, Option.none_or, patternOffsetDateTime?, patternDateTime?, patternDateTime?]
  rcases joins with rfl | rfl
  · rw [takeDateTime_blank d endsTime_nil]
    rfl
  · rw [takeDateTime_letter_for_blank, takeDateTime_letter d endsTime_nil]
    rfl

theorem withOffset?_seconds (o : Offset) (earlier : d.minusSeconds? o.seconds = some u) :
    withOffset? d o.seconds = some u := by
  rw [withOffset?, if_pos o.seconds_bounds.1, earlier]

theorem readDateTime?_offset (least : 0 ≤ d.date.year) (most : d.date.year ≤ 9999) (joins : joint = ' ' ∨ joint = 'T')
    {o : Offset} (earlier : d.minusSeconds? o.seconds = some u) :
    readDateTime? (joined d joint ++ o.chars [':']) = some u := by
  have unzoned : ∀ c ∈ (o.chars [':']).head?, c ≠ 'Z' ∧ c ≠ 'z' := by
    rintro c ⟨⟩
    unfold Offset.sign
    split <;> decide
  have zoned : timestamp? (joined d joint ++ o.chars [':']) = some u := by
    rw [timestamp?_joined least most joins (endsTime_offset o _) unzoned, takeOffset_chars o (colon_joins _)]
    exact withOffset?_seconds o earlier
  rw [readDateTime?, zoned, Option.some_or]

/-- A blank before the offset is not that of a timestamp. -/
theorem readDateTime?_compact (least : 0 ≤ d.date.year) (most : d.date.year ≤ 9999) {o : Offset}
    (earlier : d.minusSeconds? o.seconds = some u) :
    readDateTime? (joined d ' ' ++ ' ' :: o.chars []) = some u := by
  have ends : EndsTime (' ' :: o.chars []) := by
    rintro c ⟨⟩
    decide
  have unzoned : ∀ c ∈ (' ' :: o.chars []).head?, c ≠ 'Z' ∧ c ≠ 'z' := by
    rintro c ⟨⟩
    decide
  have zoneless : timestamp? (joined d ' ' ++ ' ' :: o.chars []) = none :=
    timestamp?_joined least most (.inl rfl) ends unzoned
  have signed : Text.isBlank o.sign = false := by
    unfold Offset.sign
    split <;> decide
  have skipped : Text.trimStart (' ' :: o.chars []) = o.chars [] :=
    (List.dropWhile_cons_of_pos (by decide)).trans (trimStart_cons signed _)
  have zoned : patternOffsetDateTime? (joined d ' ' ++ ' ' :: o.chars []) = some u := by
    rw [patternOffsetDateTime?, takeDateTime_blank d ends]
    simp only [Option.bind_eq_bind, Option.bind_some, skipped, takeOffset_chars o (nothing_joins _)]
    exact withOffset?_seconds o earlier
  rw [readDateTime?, zoneless, Option.none_or, zoned, Option.some_or]

end Moments

section Solid

variable {text : List Char}

def Solid (text : List Char) : Prop := ∀ c ∈ text, Text.isBlank c = false

theorem Solid.cons {c : Char} (first : Text.isBlank c = false) (others : Solid text) : Solid (c :: text) :=
  List.forall_mem_cons.mpr ⟨first, others⟩

theorem Solid.append {behind : List Char} (front : Solid text) (back : Solid behind) : Solid (text ++ behind) :=
  List.forall_mem_append.mpr ⟨front, back⟩

theorem solid_paddedDigits (width n : Nat) : Solid (paddedDigits width n) :=
  fun c among => isBlank_of_digit (paddedDigits_digits width n c among)

theorem solid_date (d : Date) : Solid d.chars := by
  have year : Solid (Date.yearChars d.year) := by
    unfold Date.yearChars
    split
    · exact solid_paddedDigits 4 _
    · refine .cons ?_ (solid_paddedDigits 4 _)
      split <;> decide
  have month : Solid ('-' :: paddedDigits 2 d.month) := .cons (by decide) (solid_paddedDigits 2 _)
  have day : Solid ('-' :: paddedDigits 2 d.day) := .cons (by decide) (solid_paddedDigits 2 _)
  exact (year.append month).append day

theorem solid_time (t : Time) : Solid t.chars := by
  obtain ⟨second, nano, -, -, written, -⟩ := chars_eq t
  have fraction : Solid (Time.fractionChars nano) := by
    unfold Time.fractionChars
    split
    · exact nofun
    · split
      · exact .cons (by decide) (solid_paddedDigits 3 _)
      · split
        · exact .cons (by decide) (solid_paddedDigits 6 _)
        · exact .cons (by decide) (solid_paddedDigits 9 _)
  rw [written]
  exact (solid_paddedDigits 2 _).append (.cons (by decide) ((solid_paddedDigits 2 _).append
    (.cons (by decide) ((solid_paddedDigits 2 _).append fraction))))

theorem solid_offset (o : Offset) {between : List Char} (solid : Solid between) : Solid (o.chars between) := by
  refine .cons ?_ ((solid_paddedDigits 2 _).append (solid.append (solid_paddedDigits 2 _)))
  unfold Offset.sign
  split <;> decide

theorem date_ne_nil (d : Date) : d.chars ≠ [] := List.append_ne_nil_of_right_ne_nil _ (List.cons_ne_nil _ _)

theorem time_ne_nil (t : Time) : t.chars ≠ [] := by
  obtain ⟨second, nano, -, -, written, -⟩ := chars_eq t
  rw [written]
  exact List.append_ne_nil_of_right_ne_nil _ (List.cons_ne_nil _ _)

end Solid

section Whole

/-- The value is kept, and the text is converted to it, with any blanks around it. -/
def ConvertsLike (c : Converter) (text : List Char) (value : Value) : Prop :=
  c.convert value = .ok value ∧ ∀ lead tail : List Char, (∀ b ∈ lead, Text.isBlank b) → (∀ b ∈ tail, Text.isBlank b) →
    c.convert (.text (String.ofList (lead ++ text ++ tail))) = .ok value

theorem date_convertsLike (d : Date) : ConvertsLike .date d.chars (.date d) := by
  have taken := takeDate_chars .tight d []
  rw [List.append_nil] at taken
  refine ⟨rfl, fun lead tail before after => ?_⟩
  have trimmed := Text.trim_solid before after (solid_date d)
  simp only [convert, convert?, toDate?, String.toList_ofList, trimmed, patternDate?, taken, complete, Option.map_some]

theorem time_convertsLike (t : Time) : ConvertsLike .time t.chars (.time t) := by
  have taken := takeTime_chars .tight t endsTime_nil
  rw [List.append_nil] at taken
  refine ⟨rfl, fun lead tail before after => ?_⟩
  have trimmed := Text.trim_solid before after (solid_time t)
  simp only [convert, convert?, toTime?, String.toList_ofList, trimmed, patternTime?, taken, complete, Option.map_some]

theorem dateTime_convertsLike {u : DateTime} (d : Date) {middle back : List Char} (solid : Solid back)
    (nonempty : back ≠ []) (read : readDateTime? (d.chars ++ middle ++ back) = some u) :
    ConvertsLike .dateTime (d.chars ++ middle ++ back) (.dateTime u) := by
  refine ⟨rfl, fun lead tail before after => ?_⟩
  have trimmed : Text.trim (lead ++ (d.chars ++ middle ++ back) ++ tail) = d.chars ++ middle ++ back := by
    apply Text.trim_blanks before after
    · intro c first
      rw [List.append_assoc, List.head?_append_of_ne_nil _ (date_ne_nil d)] at first
      exact solid_date d c (List.mem_of_mem_head? first)
    · intro c last
      rw [List.getLast?_append_of_ne_nil _ nonempty] at last
      exact solid c (List.mem_of_mem_getLast? last)
  simp only [convert, convert?, toDateTime?, String.toList_ofList, trimmed, read, Option.map_some]

section Joined

variable {d u : DateTime} {joint : Char} {o : Offset}

theorem joined_convertsLike (least : 0 ≤ d.date.year) (most : d.date.year ≤ 9999) (joins : joint = ' ' ∨ joint = 'T') :
    ConvertsLike .dateTime (joined d joint) (.dateTime d) := by
  have parts : joined d joint = d.date.chars ++ [joint] ++ d.time.chars := List.append_cons _ _ _
  have read := readDateTime?_joined least most joins
  rw [parts] at read ⊢
  exact dateTime_convertsLike d.date (solid_time d.time) (time_ne_nil d.time) read

theorem offset_convertsLike (least : 0 ≤ d.date.year) (most : d.date.year ≤ 9999) (joins : joint = ' ' ∨ joint = 'T')
    (earlier : d.minusSeconds? o.seconds = some u) :
    ConvertsLike .dateTime (joined d joint ++ o.chars [':']) (.dateTime u) := by
  have solid : Solid (o.chars [':']) := solid_offset o (.cons (by decide) nofun)
  exact dateTime_convertsLike d.date solid (List.cons_ne_nil _ _) (readDateTime?_offset least most joins earlier)

theorem compact_convertsLike (least : 0 ≤ d.date.year) (most : d.date.year ≤ 9999)
    (earlier : d.minusSeconds? o.seconds = some u) :
    ConvertsLike .dateTime (joined d ' ' ++ ' ' :: o.chars []) (.dateTime u) := by
  have parts : joined d ' ' ++ ' ' :: o.chars [] = d.date.chars ++ (' ' :: d.time.chars ++ [' ']) ++ o.chars [] := by
    simp [joined]
  have read := readDateTime?_compact least most earlier
  rw [parts] at read ⊢
  exact dateTime_convertsLike d.date (solid_offset o nofun) (List.cons_ne_nil _ _) read

end Joined

/--
Dates, times and moments that are written as they are displayed, moments also as in documents, convert as they are. A
moment with an offset behind it converts to the one moment that is so many seconds earlier.
-/
theorem written_values_convert_like_native :
    (∀ d : Date, ConvertsLike .date d.chars (.date d)) ∧ (∀ t : Time, ConvertsLike .time t.chars (.time t)) ∧
    ∀ d : DateTime, 0 ≤ d.date.year → d.date.year ≤ 9999 →
      (∀ text ∈ [d.chars, d.isoChars], ConvertsLike .dateTime text (.dateTime d)) ∧
      ∀ o : Offset, ∃ u : DateTime,
        (∀ v : DateTime, v = u ↔ v.seconds = d.seconds - o.seconds ∧ v.time.nano = d.time.nano) ∧
        ∀ text ∈ [d.chars ++ o.chars [':'], d.isoChars ++ o.chars [':'], d.chars ++ ' ' :: o.chars []],
          ConvertsLike .dateTime text (.dateTime u) := by
  refine ⟨date_convertsLike, time_convertsLike, fun d least most => ⟨fun text member => ?_, fun o => ?_⟩⟩
  · simp only [List.mem_cons, List.not_mem_nil, or_false] at member
    rcases member with rfl | rfl
    · exact joined_convertsLike least most (.inl rfl)
    · exact joined_convertsLike least most (.inr rfl)
  · obtain ⟨small, minutes⟩ := o.seconds_bounds
    obtain ⟨u, earlier, seconds, nano⟩ := d.minusSeconds?_eq small minutes
      (Int.lt_of_lt_of_le (by decide) least) (Int.lt_of_le_of_lt most (by decide))
    refine ⟨u, fun v => ⟨?_, fun same => ?_⟩, fun text member => ?_⟩
    · rintro rfl
      exact ⟨seconds, nano⟩
    · exact DateTime.eq_of_seconds (same.1.trans seconds.symm) (same.2.trans nano.symm)
    · simp only [List.mem_cons, List.not_mem_nil, or_false] at member
      rcases member with rfl | rfl | rfl
      · exact offset_convertsLike least most (.inl rfl) earlier
      · exact offset_convertsLike least most (.inr rfl) earlier
      · exact compact_convertsLike least most earlier

section Leap

def marchBegins : DateTime := ⟨⟨2020, 3, 1, rfl⟩, ⟨0, 30, 0, 250000000, rfl⟩⟩

def februaryEnds : DateTime := ⟨⟨2020, 2, 29, rfl⟩, ⟨23, 30, 0, 250000000, rfl⟩⟩

theorem march_with_offset_is_february :
    ConvertsLike .dateTime "2020-03-01T00:30:00.250".toList (.dateTime marchBegins) ∧
    ∀ text ∈ ["2020-03-01 00:30:00.250+01:00", "2020-03-01T00:30:00.250+01:00", "2020-03-01 00:30:00.250 +0100"],
      ConvertsLike .dateTime text.toList (.dateTime februaryEnds) := by
  obtain ⟨plain, zoned⟩ := written_values_convert_like_native.2.2 marchBegins (by decide) (by decide)
  obtain ⟨u, unique, texts⟩ := zoned ⟨false, 1, 0, by decide⟩
  obtain rfl : februaryEnds = u := (unique februaryEnds).mpr ⟨by decide, rfl⟩
  refine ⟨plain _ (.tail _ (.head _)), ?_⟩
  intro text member
  simp only [List.mem_cons, List.not_mem_nil, or_false] at member
  rcases member with rfl | rfl | rfl
  · exact texts _ (.head _)
  · exact texts _ (.tail _ (.head _))
  · exact texts _ (.tail _ (.tail _ (.head _)))

example : convert .dateTime (.text " 2020-03-01 00:30:00.25 +0100") = .ok (.dateTime februaryEnds) := by rfl

end Leap

end Whole

end Decode.Converter

end FeatureLayers
