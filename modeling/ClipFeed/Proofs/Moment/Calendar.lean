import ClipFeed.Moment.Calendar
/-!
Dates and day counts: the date of a day count is a valid one, and it lies that many days after
1970-01-01. Years are taken to start in March here, as in the definitions.
-/

namespace ClipFeed.Calendar

/-- Days of an era are counted by centuries, spans of four years, years and days of a year that
starts in March. Only the last year of a span has a day 365, and not in the first three centuries'
last span. -/
structure Split (dayOfEra century span year day : Int) : Prop where
  sum : dayOfEra = 36524 * century + 1461 * span + 365 * year + day
  century_bound : 0 ≤ century ∧ century ≤ 3
  span_bound : 0 ≤ span ∧ span ≤ 24
  year_bound : 0 ≤ year ∧ year ≤ 3
  day_bound : 0 ≤ day ∧ day ≤ 365
  leap : day = 365 → year = 3 ∧ (span = 24 → century = 3)

theorem exists_split (dayOfEra : Int) (low : 0 ≤ dayOfEra) (high : dayOfEra ≤ 146096) :
    ∃ century span year day, Split dayOfEra century span year day := by
  by_cases last : dayOfEra = 146096
  · exact ⟨3, 24, 3, 365, by omega, by omega, by omega, by omega, by omega, by omega⟩
  · have centuries : dayOfEra / 36524 ≤ 3 := by omega
    generalize left : dayOfEra % 36524 = rest
    generalize behind : rest % 1461 = more
    by_cases leap : more = 1460
    · exact ⟨dayOfEra / 36524, rest / 1461, 3, 365, by omega, by omega, by omega, by omega,
        by omega, by omega⟩
    · exact ⟨dayOfEra / 36524, rest / 1461, more / 365, more % 365, by omega, by omega, by omega,
        by omega, by omega, by omega⟩

private theorem yearOfEra_split {dayOfEra century span year day : Int}
    (split : Split dayOfEra century span year day) :
    (dayOfEra - dayOfEra / 1460 + dayOfEra / 36524 - dayOfEra / 146096) / 365 =
      100 * century + 4 * span + year := by
  obtain ⟨sum, centuries, spans, years, days, leap⟩ := split
  have outer : dayOfEra / 36524 - dayOfEra / 146096 = century := by
    by_cases last : day = 365 ∧ span = 24
    · have century_eq := (leap last.1).2 last.2
      omega
    · have rest : 1461 * span + 365 * year + day < 36524 := by omega
      have below : dayOfEra / 36524 = century := by omega
      omega
  have whole : dayOfEra =
      1460 * (25 * century + span) + (24 * century + span + 365 * year + day) := by omega
  by_cases full : 24 * century + span + 365 * year + day < 1460
  · have inner : dayOfEra / 1460 = 25 * century + span := by omega
    have short : day < 365 := by omega
    omega
  · have inner : dayOfEra / 1460 = 25 * century + span + 1 := by omega
    have long : 0 < day := by omega
    omega

private theorem leapYears_split {dayOfEra century span year day : Int}
    (split : Split dayOfEra century span year day) :
    (100 * century + 4 * span + year) / 4 - (100 * century + 4 * span + year) / 100 =
      24 * century + span := by
  obtain ⟨_, centuries, spans, years, _, _⟩ := split
  have fours : (100 * century + 4 * span + year) / 4 = 25 * century + span := by omega
  have hundreds : (100 * century + 4 * span + year) / 100 = century := by omega
  omega

private theorem dayOfYear_split {dayOfEra century span year day : Int}
    (split : Split dayOfEra century span year day) :
    dayOfEra - (365 * (100 * century + 4 * span + year) +
      (100 * century + 4 * span + year) / 4 - (100 * century + 4 * span + year) / 100) = day := by
  have leapYears := leapYears_split split
  have sum := split.sum
  omega

def Date.ofShifted (year shifted day : Int) : Date :=
  ⟨if shifted < 10 then year else year + 1,
    (if shifted < 10 then shifted + 3 else shifted - 9).toNat, day.toNat⟩

theorem ofDays_split {days century span year day : Int}
    (split : Split ((days + 719468) % 146097) century span year day) :
    Date.ofDays days =
      .ofShifted (100 * century + 4 * span + year + (days + 719468) / 146097 * 400)
        ((5 * day + 2) / 153) (day - (153 * ((5 * day + 2) / 153) + 2) / 5 + 1) := by
  have bound := split.day_bound
  simp only [Date.ofDays, yearOfEra_split split, dayOfYear_split split, Date.ofShifted]
  by_cases early : (5 * day + 2) / 153 < 10
  · simp only [early, ↓reduceIte]
    rw [if_neg (by omega)]
  · simp only [early, ↓reduceIte]
    rw [if_pos (by omega)]

private theorem toDays_ofShifted {era yearOfEra shifted day : Int}
    (years : 0 ≤ yearOfEra ∧ yearOfEra ≤ 399) (months : 0 ≤ shifted ∧ shifted ≤ 11)
    (start : 1 ≤ day) :
    (Date.ofShifted (yearOfEra + era * 400) shifted day).toDays =
      era * 146097 + (yearOfEra * 365 + yearOfEra / 4 - yearOfEra / 100 +
        ((153 * shifted + 2) / 5 + day - 1)) - 719468 := by
  have whole : (yearOfEra + era * 400) / 400 = era := by omega
  have part : (yearOfEra + era * 400) % 400 = yearOfEra := by omega
  have days : (day.toNat : Int) = day := Int.toNat_of_nonneg (by omega)
  by_cases early : shifted < 10
  · have month : ((shifted + 3).toNat : Int) = shifted + 3 := Int.toNat_of_nonneg (by omega)
    have late : ¬ (shifted + 3).toNat ≤ 2 := by omega
    simp only [Date.toDays, Date.ofShifted, early, late, ↓reduceIte, month, days, whole, part]
    rw [Int.add_sub_cancel]
  · have month : ((shifted - 9).toNat : Int) = shifted - 9 := Int.toNat_of_nonneg (by omega)
    have soon : (shifted - 9).toNat ≤ 2 := by omega
    simp only [Date.toDays, Date.ofShifted, early, soon, ↓reduceIte, month, days, whole, part,
      Int.add_sub_cancel, Int.sub_add_cancel]

/-- Counting the days up to a date finds the date again. -/
theorem toDays_ofDays (days : Int) : (Date.ofDays days).toDays = days := by
  obtain ⟨century, span, year, day, split⟩ :=
    exists_split ((days + 719468) % 146097) (by omega) (by omega)
  have leapYears := leapYears_split split
  rw [ofDays_split split]
  obtain ⟨sum, centuries, spans, years, bound, _⟩ := split
  rw [toDays_ofShifted (by omega) (by omega) (by omega)]
  omega

theorem month_ofDays (days : Int) :
    1 ≤ (Date.ofDays days).month ∧ (Date.ofDays days).month ≤ 12 := by
  obtain ⟨century, span, year, day, split⟩ :=
    exists_split ((days + 719468) % 146097) (by omega) (by omega)
  have bound := split.day_bound
  rw [ofDays_split split]
  simp only [Date.ofShifted]
  by_cases early : (5 * day + 2) / 153 < 10
  · simp only [early, ↓reduceIte]; omega
  · simp only [early, ↓reduceIte]; omega

/-- A year that starts in March has a day 365 only before a leap year's March. -/
theorem isLeap_of_split {dayOfEra century span year : Int} (era : Int)
    (split : Split dayOfEra century span year 365) :
    isLeap (100 * century + 4 * span + year + era * 400 + 1) := by
  obtain ⟨rfl, last⟩ := split.leap rfl
  have spans := split.span_bound
  have centuries := split.century_bound
  simp only [isLeap, Bool.and_eq_true, Bool.or_eq_true, decide_eq_true_eq]
  by_cases full : span = 24
  · have century_eq := last full
    omega
  · omega

private theorem daysInMonth_ofShifted {year day : Int} (bound : 0 ≤ day ∧ day ≤ 365)
    (leap : day = 365 → isLeap (year + 1)) :
    let date := Date.ofShifted year ((5 * day + 2) / 153)
      (day - (153 * ((5 * day + 2) / 153) + 2) / 5 + 1)
    1 ≤ date.day ∧ date.day ≤ daysInMonth date.year date.month := by
  generalize shape : (5 * day + 2) / 153 = shifted
  have months : shifted = 0 ∨ shifted = 1 ∨ shifted = 2 ∨ shifted = 3 ∨ shifted = 4 ∨ shifted = 5 ∨
      shifted = 6 ∨ shifted = 7 ∨ shifted = 8 ∨ shifted = 9 ∨ shifted = 10 ∨ shifted = 11 := by
    omega
  refine ⟨by simp only [Date.ofShifted]; omega, ?_⟩
  rcases months with rfl | rfl | rfl | rfl | rfl | rfl | rfl | rfl | rfl | rfl | rfl | rfl
  case inr.inr.inr.inr.inr.inr.inr.inr.inr.inr.inr =>
    by_cases leapDay : day = 365
    · simp [Date.ofShifted, daysInMonth, leap leapDay]; omega
    · simp [Date.ofShifted, daysInMonth]; split <;> omega
  all_goals simp [Date.ofShifted, daysInMonth]; omega

theorem day_ofDays (days : Int) :
    1 ≤ (Date.ofDays days).day ∧
      (Date.ofDays days).day ≤ daysInMonth (Date.ofDays days).year (Date.ofDays days).month := by
  obtain ⟨century, span, year, day, split⟩ :=
    exists_split ((days + 719468) % 146097) (by omega) (by omega)
  rw [ofDays_split split]
  apply daysInMonth_ofShifted split.day_bound
  intro last
  subst last
  exact isLeap_of_split _ split

end ClipFeed.Calendar
