import FeatureLayers.Calendar.Basic

namespace FeatureLayers

section Counting

variable {year later : Int} {month : Nat}

def daysBeforeYear (year : Int) : Int :=
  365 * (year - 1) + (year - 1) / 4 - (year - 1) / 100 + (year - 1) / 400

def daysBeforeMonth (year : Int) : Nat → Nat
  | 0 | 1 => 0
  | month + 2 => daysBeforeMonth year (month + 1) + daysInMonth year (month + 1)

theorem daysInMonth_pos (year : Int) (month : Nat) : 0 < daysInMonth year month := by
  unfold daysInMonth
  grind

theorem daysBeforeMonth_succ (year : Int) (positive : 1 ≤ month) :
    daysBeforeMonth year (month + 1) = daysBeforeMonth year month + daysInMonth year month := by
  obtain ⟨before, rfl⟩ := Nat.exists_eq_add_of_le' positive
  rfl

theorem daysBeforeMonth_le (year : Int) {earlier : Nat} (positive : 1 ≤ earlier) (before : earlier < month) :
    daysBeforeMonth year earlier + daysInMonth year earlier ≤ daysBeforeMonth year month := by
  induction month with
  | zero => omega
  | succ month ih =>
    rcases Nat.lt_succ_iff_lt_or_eq.mp before with earlier | rfl
    · have onward := ih earlier
      rw [daysBeforeMonth_succ year (by omega)]
      omega
    · exact Nat.le_of_eq (daysBeforeMonth_succ year positive).symm

theorem daysBeforeYear_succ (year : Int) :
    daysBeforeYear (year + 1) = daysBeforeYear year + daysBeforeMonth year 13 := by
  have length : daysBeforeMonth year 13 = if isLeapYear year then 366 else 365 := by
    cases leap : isLeapYear year <;> simp [daysBeforeMonth, daysInMonth, leap]
  have leap : isLeapYear year = true ↔ year % 4 = 0 ∧ (year % 100 ≠ 0 ∨ year % 400 = 0) := by
    simp [isLeapYear]
  rw [length]
  unfold daysBeforeYear
  split
  · have cycle := leap.mp ‹_›
    omega
  · have cycle := mt leap.mpr ‹_›
    omega

theorem daysBeforeYear_le (before : year < later) :
    daysBeforeYear year + daysBeforeMonth year 13 ≤ daysBeforeYear later := by
  rw [← daysBeforeYear_succ]
  unfold daysBeforeYear
  rcases Int.lt_or_eq_of_le (Int.add_one_le_of_lt before) with apart | rfl
  · omega
  · exact Int.le_refl _

end Counting

namespace Date

variable {d e : Date}

def dayNumber (d : Date) : Int := daysBeforeYear d.year + daysBeforeMonth d.year d.month + d.day

theorem isDate_iff {year : Int} {month day : Nat} : isDate year month day = true ↔
    (minYear ≤ year ∧ year ≤ maxYear) ∧ (1 ≤ month ∧ month ≤ 12) ∧ 1 ≤ day ∧ day ≤ daysInMonth year month := by
  simp only [isDate, Bool.and_eq_true, decide_eq_true_eq, and_assoc]

theorem dayNumber_lt_of_year (before : d.year < e.year) : d.dayNumber < e.dayNumber := by
  obtain ⟨-, ⟨first, last⟩, -, within⟩ := isDate_iff.mp d.valid
  obtain ⟨-, -, positive, -⟩ := isDate_iff.mp e.valid
  have years := daysBeforeYear_le before
  have inside : d.month < 13 := Nat.lt_succ_of_le last
  have months := daysBeforeMonth_le d.year first inside
  unfold dayNumber
  omega

theorem dayNumber_lt_of_month (year : d.year = e.year) (before : d.month < e.month) : d.dayNumber < e.dayNumber := by
  obtain ⟨-, ⟨first, -⟩, -, within⟩ := isDate_iff.mp d.valid
  obtain ⟨-, -, positive, -⟩ := isDate_iff.mp e.valid
  have months := daysBeforeMonth_le d.year first before
  unfold dayNumber
  rw [← year]
  omega

theorem eq_of_dayNumber (same : d.dayNumber = e.dayNumber) : d = e := by
  have year : d.year = e.year := by
    rcases Int.lt_trichotomy d.year e.year with before | year | after
    · have := dayNumber_lt_of_year before
      omega
    · exact year
    · have := dayNumber_lt_of_year after
      omega
  have month : d.month = e.month := by
    rcases Nat.lt_trichotomy d.month e.month with before | month | after
    · have := dayNumber_lt_of_month year before
      omega
    · exact month
    · have := dayNumber_lt_of_month year.symm after
      omega
  have day : d.day = e.day := by
    unfold dayNumber at same
    rw [year, month] at same
    omega
  cases d
  cases e
  cases year
  cases month
  cases day
  rfl

theorem of?_of_valid {year : Int} {month day : Nat} (valid : isDate year month day = true) :
    of? year month day = some ⟨year, month, day, valid⟩ := dif_pos valid

theorem next?_eq (d : Date) (inside : d.year < maxYear) : ∃ e, d.next? = some e ∧ e.dayNumber = d.dayNumber + 1 := by
  obtain ⟨years, ⟨first, last⟩, positive, within⟩ := isDate_iff.mp d.valid
  unfold next? dayNumber
  rcases Nat.lt_or_eq_of_le within with day | day
  · rw [of?_of_valid (isDate_iff.mpr ⟨years, ⟨first, last⟩, Nat.succ_pos _, day⟩), Option.some_or]
    refine ⟨_, rfl, ?_⟩
    dsimp only
    omega
  · have past : of? d.year d.month (d.day + 1) = none := dif_neg fun valid => by
      have := (isDate_iff.mp valid).2.2.2
      omega
    rw [past, Option.none_or]
    rcases Nat.lt_or_eq_of_le last with month | month
    · have valid : isDate d.year (d.month + 1) 1 = true :=
        isDate_iff.mpr ⟨years, ⟨by omega, month⟩, Nat.le_refl 1, daysInMonth_pos _ _⟩
      rw [of?_of_valid valid, Option.some_or]
      have months := daysBeforeMonth_succ d.year first
      refine ⟨_, rfl, ?_⟩
      dsimp only
      omega
    · have past : of? d.year (d.month + 1) 1 = none := dif_neg fun valid => by
        have := (isDate_iff.mp valid).2.1.2
        omega
      have valid : isDate (d.year + 1) 1 1 = true :=
        isDate_iff.mpr ⟨⟨by omega, by omega⟩, by decide, Nat.le_refl 1, daysInMonth_pos _ _⟩
      rw [past, Option.none_or, of?_of_valid valid]
      have months : daysBeforeMonth d.year 13 = daysBeforeMonth d.year 12 + daysInMonth d.year 12 := rfl
      have days := daysBeforeYear_succ d.year
      rw [month] at day ⊢
      refine ⟨_, rfl, ?_⟩
      dsimp only
      rw [daysBeforeMonth]
      omega

theorem previous?_eq (d : Date) (inside : minYear < d.year) :
    ∃ e, d.previous? = some e ∧ e.dayNumber = d.dayNumber - 1 := by
  obtain ⟨years, ⟨first, last⟩, positive, within⟩ := isDate_iff.mp d.valid
  unfold previous? dayNumber
  split
  · rename_i day
    rw [of?_of_valid (isDate_iff.mpr ⟨years, ⟨first, last⟩, by omega, by omega⟩)]
    refine ⟨_, rfl, ?_⟩
    dsimp only
    omega
  · split
    · rename_i month
      rw [of?_of_valid (isDate_iff.mpr ⟨years, ⟨by omega, by omega⟩, daysInMonth_pos _ _, Nat.le_refl _⟩)]
      have months : daysBeforeMonth d.year (d.month - 1 + 1) = _ := daysBeforeMonth_succ d.year (by omega)
      rw [Nat.sub_add_cancel first] at months
      refine ⟨_, rfl, ?_⟩
      dsimp only
      omega
    · have valid : isDate (d.year - 1) 12 31 = true :=
        isDate_iff.mpr ⟨⟨by omega, by omega⟩, by decide, by decide, Nat.le_refl 31⟩
      rw [of?_of_valid valid]
      have month : d.month = 1 := by omega
      have months : daysBeforeMonth (d.year - 1) 13 = daysBeforeMonth (d.year - 1) 12 + 31 := rfl
      have days := daysBeforeYear_succ (d.year - 1)
      rw [Int.sub_add_cancel] at days
      refine ⟨_, rfl, ?_⟩
      dsimp only
      rw [month, daysBeforeMonth]
      omega

theorem shift?_eq (d : Date) (days : Int) (least : -1 ≤ days) (most : days ≤ 1) (after : minYear < d.year)
    (before : d.year < maxYear) : ∃ e, d.shift? days = some e ∧ e.dayNumber = d.dayNumber + days := by
  unfold shift?
  split
  · obtain ⟨e, next, number⟩ := d.next?_eq before
    exact ⟨e, next, by omega⟩
  · split
    · obtain ⟨e, previous, number⟩ := d.previous?_eq after
      exact ⟨e, previous, by omega⟩
    · exact ⟨d, rfl, by omega⟩

end Date

namespace Time

variable {t u : Time}

theorem secondOfDay_lt (t : Time) : t.secondOfDay < 86400 := by
  have valid := t.valid
  simp only [isTime, Bool.and_eq_true, decide_eq_true_eq] at valid
  unfold secondOfDay
  omega

theorem eq_of_secondOfDay (same : t.secondOfDay = u.secondOfDay) (nano : t.nano = u.nano) : t = u := by
  have valid := t.valid
  have valid' := u.valid
  simp only [isTime, Bool.and_eq_true, decide_eq_true_eq] at valid valid'
  unfold secondOfDay at same
  have hour : t.hour = u.hour := by omega
  have minute : t.minute = u.minute := by omega
  have second : t.second = u.second := by omega
  cases t
  cases u
  cases hour
  cases minute
  cases second
  cases nano
  rfl

/-- Whole minutes leave the second as it is, so that a leap second stays one. -/
theorem ofSecondOfDay?_eq (t : Time) (seconds : Nat) (within : seconds < 86400) (minutes : seconds % 60 = t.second) :
    ∃ u, ofSecondOfDay? seconds t.nano = some u ∧ u.secondOfDay = seconds ∧ u.nano = t.nano := by
  have valid := t.valid
  have fields : isTime (seconds / 3600) (seconds / 60 % 60) (seconds % 60) t.nano = true := by
    simp only [isTime, Bool.and_eq_true, Bool.or_eq_true, decide_eq_true_eq] at valid ⊢
    omega
  refine ⟨_, dif_pos fields, ?_, rfl⟩
  unfold secondOfDay
  dsimp only
  omega

end Time

namespace DateTime

variable {d e : DateTime}

/-- The seconds up to the moment. Those of its fraction, and a leap second, are in its nanoseconds. -/
def seconds (d : DateTime) : Int := d.date.dayNumber * 86400 + d.time.secondOfDay

theorem eq_of_seconds (same : d.seconds = e.seconds) (nano : d.time.nano = e.time.nano) : d = e := by
  have within := d.time.secondOfDay_lt
  have within' := e.time.secondOfDay_lt
  unfold seconds at same
  have date : d.date = e.date := Date.eq_of_dayNumber (by omega)
  have time : d.time = e.time := Time.eq_of_secondOfDay (by omega) nano
  cases d
  cases e
  cases date
  cases time
  rfl

theorem minusSeconds?_eq (d : DateTime) {offset : Int} (small : offset.natAbs < 86400) (minutes : offset % 60 = 0)
    (after : minYear < d.date.year) (before : d.date.year < maxYear) :
    ∃ u, d.minusSeconds? offset = some u ∧ u.seconds = d.seconds - offset ∧ u.time.nano = d.time.nano := by
  have within := d.time.secondOfDay_lt
  have valid := d.time.valid
  simp only [isTime, Bool.and_eq_true, decide_eq_true_eq] at valid
  have kept : ((d.time.secondOfDay - offset) % 86400).toNat % 60 = d.time.second := by
    unfold Time.secondOfDay
    omega
  obtain ⟨date, shifted, number⟩ := d.date.shift?_eq ((d.time.secondOfDay - offset) / 86400) (by omega) (by omega)
    after before
  obtain ⟨time, clocked, second, nano⟩ := d.time.ofSecondOfDay?_eq
    ((d.time.secondOfDay - offset) % 86400).toNat (by omega) kept
  refine ⟨⟨date, time⟩, ?_, ?_, nano⟩
  · simp only [minusSeconds?, shifted, clocked]
  · unfold seconds
    dsimp only
    omega

end DateTime

end FeatureLayers
