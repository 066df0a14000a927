import ClipFeed.Proofs.Moment.Calendar
import ClipFeed.Proofs.Text.Decimal
import Mathlib.Algebra.Group.Nat.Defs
import Mathlib.Tactic.SplitIfs
/-!
The RFC 3339 text of a moment reads back as that moment, to the nanosecond and with its offset,
whenever the moment has such a text.
-/

namespace ClipFeed.Moment

open Text

theorem padded_isDigit {width n : Nat} {c : Char} (member : c ∈ padded width n) : c.isDigit := by
  rcases List.mem_append.mp member with zero | digit
  · rw [List.eq_of_mem_replicate zero]; rfl
  · exact toDigits_isDigit digit

private theorem length_padded {width n : Nat} (positive : 0 < width) (fits : n < 10 ^ width) :
    (padded width n).length = width := by
  have short := (Nat.length_toDigits_le_iff (b := 10) (by decide) positive).mpr fits
  simp only [padded, List.length_append, List.length_replicate]
  omega

private theorem asciiBytes_zeros (count : Nat) :
    asciiBytes (List.replicate count '0') = List.replicate count 48 := by
  simp [asciiBytes]

private theorem number_padded (width n : Nat) : number (asciiBytes (padded width n)) = n := by
  rw [padded, asciiBytes_append, asciiBytes_zeros, number_zeros, number_toDigits]

private theorem digits_padded (width : Nat) {n : Nat} (name : String) (positive : 0 < width)
    (fits : n < 10 ^ width) (rest : Bytes) :
    digits width name (asciiBytes (padded width n) ++ rest) = .ok (n, rest) := by
  have long : (asciiBytes (padded width n)).length = width := by
    rw [length_asciiBytes, length_padded positive fits]
  have front : (asciiBytes (padded width n) ++ rest).take width = asciiBytes (padded width n) :=
    List.take_left' long
  have behind : (asciiBytes (padded width n) ++ rest).drop width = rest :=
    List.drop_left' long
  have all := all_isDigit fun c (member : c ∈ padded width n) => padded_isDigit member
  simp [digits, front, behind, long, all, number_padded]

private theorem number_append_zeros (ds : Bytes) (count : Nat) :
    number (ds ++ List.replicate count 48) = number ds * 10 ^ count := by
  induction count with
  | zero => simp
  | succ count ih =>
    rw [List.replicate_succ', ← List.append_assoc, number_append, ih, Nat.pow_succ]
    simp [Nat.mul_assoc]

private theorem takeWhile_zeros (ds : List Char) :
    ds.takeWhile (· == '0') = List.replicate (ds.takeWhile (· == '0')).length '0' := by
  rw [List.eq_replicate_iff]
  refine ⟨rfl, ?_⟩
  intro c member
  simpa using List.all_eq_true.mp (List.all_takeWhile (p := (· == '0'))) c member

private theorem withoutTrailingZeros_append (ds : List Char) :
    ∃ count, ds = withoutTrailingZeros ds ++ List.replicate count '0' := by
  refine ⟨(ds.reverse.takeWhile (· == '0')).length, ?_⟩
  have split := congrArg List.reverse (List.takeWhile_append_dropWhile (p := (· == '0'))
    (l := ds.reverse))
  rw [List.reverse_append, List.reverse_reverse, takeWhile_zeros, List.reverse_replicate] at split
  simpa [withoutTrailingZeros] using split.symm

private theorem fraction_renderFraction {nanos : Nat} (small : nanos < 10 ^ 9) (rest : Bytes)
    (closed : ∀ b ∈ rest.head?, isDigit b = false) (whole : rest.head? ≠ some 46) :
    fraction (asciiBytes (renderFraction nanos) ++ rest) = .ok (nanos, rest) := by
  by_cases zero : nanos = 0
  · subst nanos
    match rest, whole with
    | [], _ => rfl
    | b :: rest, whole =>
      have other : b ≠ 46 := fun dot => whole (by rw [dot]; rfl)
      simp [renderFraction, fraction, other]
  · obtain ⟨count, split⟩ := withoutTrailingZeros_append (padded 9 nanos)
    generalize shape : withoutTrailingZeros (padded 9 nanos) = kept at split
    have digits : ∀ c ∈ kept, c.isDigit := fun c member =>
      padded_isDigit (split ▸ List.mem_append_left _ member)
    have long : kept.length + count = 9 := by
      rw [← length_padded (by decide) small, split, List.length_append, List.length_replicate]
    have value : number (asciiBytes kept) * 10 ^ count = nanos := by
      rw [← number_append_zeros, ← asciiBytes_zeros, ← asciiBytes_append, ← split, number_padded]
    have some : (asciiBytes kept).isEmpty = false := by
      cases kept with
      | nil => exact absurd (by simpa [number] using value.symm) zero
      | cons c cs => rfl
    have front : (asciiBytes kept).take 9 = asciiBytes kept :=
      List.take_of_length_le (by rw [length_asciiBytes]; omega)
    have power : 9 - (asciiBytes kept).length = count := by rw [length_asciiBytes]; omega
    have dot : UInt8.ofNat '.'.toNat = 46 := rfl
    simp only [renderFraction, zero, ↓reduceIte, shape, asciiBytes_cons, List.cons_append, dot,
      fraction, takeWhile_digits digits closed, dropWhile_digits digits closed, some, front, power,
      Bool.false_eq_true]
    rw [show Nat.pow 10 count = 10 ^ count from rfl, value]

private theorem zone_renderOffset {offset : Int} (hours : offset.natAbs / 3600 ≤ 23)
    (whole : offset.natAbs % 60 = 0) :
    zone (asciiBytes (renderOffset offset)) = .ok (offset, []) := by
  by_cases zero : offset = 0
  · subst offset; rfl
  · generalize total : offset.natAbs / 60 = minutes
    have hour := digits_padded 2 "offset hour" (n := minutes / 60) (by decide) (by omega)
      (58 :: asciiBytes (padded 2 (minutes % 60)))
    have minute := digits_padded 2 "offset minute" (n := minutes % 60) (by decide)
      (by omega) []
    rw [List.append_nil] at minute
    have early : ¬ 23 < minutes / 60 := by omega
    have small : ¬ 59 < minutes % 60 := by omega
    by_cases west : offset < 0
    · simp [renderOffset, zero, total, west, zone, hour, minute, literal, early, small, bind,
        Except.bind, pure, Except.pure, -Int.natCast_ediv, -Int.natCast_emod]
      omega
    · simp [renderOffset, zero, total, west, zone, hour, minute, literal, early, small, bind,
        Except.bind, pure, Except.pure, -Int.natCast_ediv, -Int.natCast_emod]
      omega

private theorem head_renderOffset (offset : Int) :
    ∃ b rest, asciiBytes (renderOffset offset) = b :: rest ∧ isDigit b = false ∧ b ≠ 46 := by
  unfold renderOffset
  split
  · exact ⟨90, [], rfl, rfl, by decide⟩
  · split
    · exact ⟨45, _, rfl, rfl, by decide⟩
    · exact ⟨43, _, rfl, rfl, by decide⟩

private theorem secondOfDay_bound (m : Moment) : m.secondOfDay < 86400 := by
  unfold secondOfDay; omega

private theorem subsecond_bound (m : Moment) : m.subsecond < 10 ^ 9 := by
  simp only [subsecond, nanosPerSecond]; omega

theorem daysInMonth_bound (year : Int) (month : Nat) : Calendar.daysInMonth year month ≤ 31 := by
  unfold Calendar.daysInMonth
  split
  · split <;> decide
  · split <;> decide

/-- The local date and time of day with the offset are the moment again. -/
theorem ofLocal_localDate (m : Moment) :
    ofLocal m.localDate m.secondOfDay m.subsecond m.offset = m := by
  have days := Calendar.toDays_ofDays (m.localSeconds / 86400)
  have second : (m.secondOfDay : Int) = m.localSeconds % 86400 :=
    Int.toNat_of_nonneg (by omega)
  have nanos : (m.subsecond : Int) = m.unixNanos % nanosPerSecond :=
    Int.toNat_of_nonneg (by simp only [nanosPerSecond]; omega)
  have instant : (m.localDate.toDays * 86400 + m.secondOfDay - m.offset) * nanosPerSecond +
      m.subsecond = m.unixNanos := by
    rw [localDate, days, second, nanos]
    simp only [localSeconds, unixSeconds, nanosPerSecond]
    omega
  rw [ofLocal, instant]

theorem padded_ascii {width n : Nat} {c : Char} (member : c ∈ padded width n) :
    c.toNat < 128 := by
  have range := toNat_of_isDigit (padded_isDigit member)
  omega

private theorem renderFraction_ascii {nanos : Nat} {c : Char} (member : c ∈ renderFraction nanos) :
    c.toNat < 128 := by
  obtain ⟨count, split⟩ := withoutTrailingZeros_append (padded 9 nanos)
  unfold renderFraction at member
  split at member
  · cases member
  · rcases List.mem_cons.mp member with rfl | digit
    · decide
    · have kept : c ∈ padded 9 nanos := by
        rw [split]
        exact List.mem_append_left _ digit
      exact padded_ascii kept

private theorem renderOffset_ascii {offset : Int} {c : Char} (member : c ∈ renderOffset offset) :
    c.toNat < 128 := by
  unfold renderOffset at member
  split at member
  · rw [List.mem_singleton.mp member]; decide
  · simp only [List.cons_append, List.mem_cons, List.mem_append] at member
    rcases member with rfl | hour | rfl | minute
    · split <;> decide
    · exact padded_ascii hour
    · decide
    · exact padded_ascii minute

/-- What a moment with a written form is like. -/
structure Writable (m : Moment) : Prop where
  year : 0 ≤ m.localDate.year ∧ m.localDate.year ≤ 9999
  hours : m.offset.natAbs / 3600 ≤ 23
  minutes : m.offset.natAbs % 60 = 0

def spelled (m : Moment) : Bytes :=
  asciiBytes (padded 4 m.localDate.year.toNat) ++ 45 :: (asciiBytes (padded 2 m.localDate.month) ++
    45 :: (asciiBytes (padded 2 m.localDate.day) ++ 84 :: (
    asciiBytes (padded 2 (m.secondOfDay / 3600)) ++ 58 :: (
    asciiBytes (padded 2 (m.secondOfDay / 60 % 60)) ++ 58 :: (
    asciiBytes (padded 2 (m.secondOfDay % 60)) ++ (asciiBytes (renderFraction m.subsecond) ++
    asciiBytes (renderOffset m.offset)))))))

private theorem render_eq_ok {m : Moment} {text : String} (written : m.render = .ok text) :
    Writable m ∧ bytes text = m.spelled := by
  unfold render at written
  simp only at written
  split_ifs at written with year hours minutes
  obtain rfl := Except.ok.inj written
  simp only [Bool.or_eq_true, decide_eq_true_eq, not_or, Int.not_lt] at year
  refine ⟨⟨year, Nat.le_of_not_lt hours, Decidable.not_not.mp minutes⟩, ?_⟩
  rw [bytes_ofList_ascii]
  · simp [spelled]
  · intro c member
    simp only [List.append_assoc, List.cons_append, List.mem_append, List.mem_cons] at member
    rcases member with part | rfl | part | rfl | part | rfl | part | rfl | part | rfl | part |
      part | part
    all_goals first | decide | exact padded_ascii part | exact renderFraction_ascii part |
      exact renderOffset_ascii part

/-- Only moments that are like that have a written form. -/
theorem exists_render_iff {m : Moment} : (∃ text, m.render = .ok text) ↔ m.Writable := by
  constructor
  · rintro ⟨text, written⟩
    exact (render_eq_ok written).1
  · rintro ⟨year, hours, minutes⟩
    have inside : ¬ (m.localDate.year < 0 ∨ 9999 < m.localDate.year) := by omega
    have below : ¬ 23 < m.offset.natAbs / 3600 := by omega
    simp [render, inside, below, minutes]

/-- The text of a moment reads back as that moment. -/
theorem parse_render {m : Moment} {text : String} (written : m.render = .ok text) :
    parse text = .ok m := by
  obtain ⟨writable, same⟩ := render_eq_ok written
  have months : 1 ≤ m.localDate.month ∧ m.localDate.month ≤ 12 := Calendar.month_ofDays _
  have days : 1 ≤ m.localDate.day ∧
      m.localDate.day ≤ Calendar.daysInMonth m.localDate.year m.localDate.month :=
    Calendar.day_ofDays _
  have years := writable.year
  have length := daysInMonth_bound m.localDate.year m.localDate.month
  have seconds := secondOfDay_bound m
  have nonnegative : (m.localDate.year.toNat : Int) = m.localDate.year :=
    Int.toNat_of_nonneg years.1
  have time : m.secondOfDay / 3600 * 3600 + m.secondOfDay / 60 % 60 * 60 + m.secondOfDay % 60 =
    m.secondOfDay := by omega
  obtain ⟨first, more, head, noDigit, noDot⟩ := head_renderOffset m.offset
  have sub := fraction_renderFraction (subsecond_bound m) (asciiBytes (renderOffset m.offset))
    (by simp [head, noDigit]) (by simp [head, noDot])
  rw [parse, same, spelled, parseBytes]
  simp only [digits_padded 4 "year" (by decide) (show m.localDate.year.toNat < 10 ^ 4 by omega),
    digits_padded 2 "month" (by decide) (show m.localDate.month < 10 ^ 2 by omega),
    digits_padded 2 "day" (by decide) (show m.localDate.day < 10 ^ 2 by omega),
    digits_padded 2 "hour" (by decide) (show m.secondOfDay / 3600 < 10 ^ 2 by omega),
    digits_padded 2 "minute" (by decide) (show m.secondOfDay / 60 % 60 < 10 ^ 2 by omega),
    digits_padded 2 "second" (by decide) (show m.secondOfDay % 60 < 10 ^ 2 by omega),
    sub, zone_renderOffset writable.hours writable.minutes, literal, bind, Except.bind, ↓reduceIte]
  have notLeap : m.secondOfDay % 60 ≠ 60 := by omega
  have noMonth : ¬ (m.localDate.month = 0 ∨ 12 < m.localDate.month) := by omega
  have noDay : ¬ (m.localDate.day = 0 ∨
    Calendar.daysInMonth m.localDate.year m.localDate.month < m.localDate.day) := by omega
  have noHour : ¬ 23 < m.secondOfDay / 3600 := by omega
  have noMinute : ¬ 59 < m.secondOfDay / 60 % 60 := by omega
  have noSecond : ¬ 59 < m.secondOfDay % 60 := by omega
  simp [notLeap, noMonth, noDay, noHour, noMinute, noSecond, nonnegative, time, pure, Except.pure]
  exact ofLocal_localDate m

end ClipFeed.Moment
