import ClipFeed.Feed.Cursor
import ClipFeed.Proofs.Payload.RoundTrip
import ClipFeed.Proofs.Text.Base64Url
/-!
Tokens against positions: a token holds no blank and reads back as the payload it was made from, and
a position that comes from a token lies on a whole microsecond in UTC.
-/

namespace ClipFeed.Text

private theorem dropBlanks_solid {cs : List Char} (solid : ∀ c ∈ cs, isBlank c = false) :
    dropBlanks cs = cs := by
  cases cs with
  | nil => rfl
  | cons c cs => simp [dropBlanks, solid c (List.mem_cons_self ..)]

private theorem trim_solid {s : String} (solid : ∀ c ∈ s.toList, isBlank c = false) :
    trim s = s := by
  have reversed : ∀ c ∈ s.toList.reverse, isBlank c = false :=
    fun c member => solid c (List.mem_reverse.mp member)
  rw [trim, trimChars, dropBlanks_solid solid, dropBlanks_solid reversed, List.reverse_reverse,
    String.ofList_toList]

end ClipFeed.Text

/-- Whether the year of a moment in UTC is at most 9999 before or after year zero. -/
def ClipFeed.Moment.InRange (m : Moment) : Prop :=
  firstNanos ≤ m.unixNanos ∧ m.unixNanos ≤ lastNanos

namespace ClipFeed.Feed

open Payload Text

private theorem decodePayload_encodePayload
    {s : Shape} (faithful : s.Faithful) {v : s.Val} {bs : Bytes}
    (written : s.write v = .ok bs) : decodePayload s (encodePayload s v) = .ok v := by
  have solid : trim (Base64Url.encode bs) = Base64Url.encode bs :=
    trim_solid fun _ member => Base64Url.encode_not_blank member
  simp [decodePayload, encodePayload, written, solid, Base64Url.decode_encode,
    parse_write faithful written]

private theorem trimmed_encodePayload {s : Shape} (faithful : s.Faithful) {v : s.Val} {bs : Bytes}
    (written : s.write v = .ok bs) :
    trimmed? (encodePayload s v) = some (encodePayload s v) := by
  have solid : trim (Base64Url.encode bs) = Base64Url.encode bs :=
    trim_solid fun _ member => Base64Url.encode_not_blank member
  have nonempty : Base64Url.encode bs ≠ "" := by
    intro empty
    have nothing := Base64Url.decode_encode bs
    rw [empty] at nothing
    exact write_ne_nil faithful written (Except.ok.inj nothing).symm
  simp [trimmed?, encodePayload, written, solid, nonempty]

namespace LatestCursor

/-- What is true of every position that comes from a token. -/
structure Canonical (c : LatestCursor) : Prop where
  micros : c.before = .utc (c.beforeMicros.toInt * 1000)
  id : ∀ id ∈ c.id, 0 < id

private theorem faithful_payload : payload.Faithful := by
  simp [payload, Shape.Faithful, Fields.Faithful, Fields.names, Shape.absent?]

private theorem write_payload (micros : Int64) (id : Option Int64) :
    ∃ bs, payload.write (micros, id, ()) = .ok bs := by
  cases id <;> exact ⟨_, rfl⟩

theorem trimmed_encode (c : LatestCursor) : trimmed? c.encode = some c.encode :=
  have ⟨_, written⟩ := write_payload c.beforeMicros c.id
  trimmed_encodePayload faithful_payload written

theorem decode_encode (c : LatestCursor) : decode c.encode = ofPayload? c.beforeMicros c.id := by
  obtain ⟨bs, written⟩ := write_payload c.beforeMicros c.id
  have read := decodePayload_encodePayload faithful_payload written
  rw [decode, encode, read]
  rfl

theorem beforeMicros_utc {micros : Int64} {id : Option Int64} :
    beforeMicros ⟨.utc (micros.toInt * 1000), id⟩ = micros := by
  have low := Int64.minValue_le_toInt micros
  have high := Int64.toInt_le micros
  have whole : (micros.toInt * 1000).tdiv 1000 = micros.toInt :=
    Int.mul_tdiv_cancel _ (by decide)
  simp only [beforeMicros, Moment.unixMicros, Moment.utc, whole, Int.not_lt.mpr low,
    Int.not_lt.mpr high, ↓reduceIte, Int64.ofInt_toInt]

theorem positive_of_accepted {n : Int64} (nonnegative : ¬ n < 0) (nonzero : n ≠ 0) : 0 < n := by
  rw [Int64.lt_iff_toInt_lt] at nonnegative ⊢
  have other : n.toInt ≠ (0 : Int64).toInt := fun same => nonzero (Int64.toInt.inj same)
  omega

/-- The time of a payload that passes the checks of its signs. -/
def ofMicros (micros : Int64) (id : Option Int64) : Except CursorFault (Option LatestCursor) :=
  match Moment.ofMicros? micros.toInt with
  | some before => .ok (some ⟨before, id⟩)
  | none => .error (.malformed "timestamp was not in range")

theorem ofPayload_row {micros n : Int64} (positive : 0 < n) :
    ofPayload? micros (some n) = ofMicros micros (some n) := by
  have nonnegative : ¬ n < 0 := Int64.lt_asymm positive
  have nonzero : n ≠ 0 := by rintro rfl; exact Int64.lt_irrefl positive
  simp [ofPayload?, ofMicros, nonnegative, nonzero, pure, Except.pure]
  rfl

private theorem ofMicros_eq_some {micros : Int64} {id : Option Int64} {c : LatestCursor}
    (accepted : ofMicros micros id = .ok (some c)) : c = ⟨.utc (micros.toInt * 1000), id⟩ := by
  unfold ofMicros Moment.ofMicros? at accepted
  split at accepted
  · next before found =>
    simp only [Option.ite_none_right_eq_some] at found
    obtain ⟨_, found⟩ := found
    cases accepted
    rw [← Option.some.inj found]
  · cases accepted

theorem ofPayload_eq_some {micros : Int64} {id : Option Int64} {c : LatestCursor}
    (accepted : ofPayload? micros id = .ok (some c)) :
    c = ⟨.utc (micros.toInt * 1000), id⟩ ∧ (∀ n ∈ id, 0 < n) := by
  cases id with
  | none =>
    refine ⟨ofMicros_eq_some ?_, by simp⟩
    rw [← accepted]
    by_cases zero : micros = 0
    · simp [ofPayload?, zero, pure, Except.pure] at accepted
    · by_cases negative : micros < 0
      · simp [ofPayload?, zero, negative, pure, Except.pure, bind, Except.bind] at accepted
      · simp [ofPayload?, ofMicros, zero, negative, pure, Except.pure]
        rfl
  | some n =>
    by_cases negative : n < 0
    · simp [ofPayload?, negative, pure, Except.pure, bind, Except.bind] at accepted
    · by_cases zero : n = 0
      · by_cases start : micros = 0
        all_goals simp [ofPayload?, zero, start, pure, Except.pure, bind, Except.bind] at accepted
      · have positive := positive_of_accepted negative zero
        rw [ofPayload_row positive] at accepted
        exact ⟨ofMicros_eq_some accepted, by simpa using positive⟩

private theorem tdiv_bounds (n : Int) : n / 1000 ≤ n.tdiv 1000 ∧ n.tdiv 1000 ≤ n / 1000 + 1 := by
  have sign : Int.sign 1000 = 1 := rfl
  rw [Int.tdiv_eq_ediv, sign]
  split <;> omega

theorem tdiv_whole {n : Int} (whole : n % 1000 = 0) : n.tdiv 1000 * 1000 = n :=
  Int.tdiv_mul_cancel (Int.dvd_of_emod_eq_zero whole)

theorem toInt_unixMicros {m : Moment} (range : m.InRange) :
    m.unixMicros.toInt = m.unixNanos.tdiv 1000 := by
  obtain ⟨first, last⟩ := range
  simp only [Moment.firstNanos, Moment.lastNanos, Moment.nanosPerSecond] at first last
  have low : Int64.minValue.toInt = -9223372036854775808 := rfl
  have high : Int64.maxValue.toInt = 9223372036854775807 := rfl
  have near := tdiv_bounds m.unixNanos
  have notLow : ¬ m.unixNanos.tdiv 1000 < Int64.minValue.toInt := by omega
  have notHigh : ¬ Int64.maxValue.toInt < m.unixNanos.tdiv 1000 := by omega
  simp only [Moment.unixMicros, notLow, notHigh, ↓reduceIte]
  exact Int64.toInt_ofInt_of_le (by omega) (by omega)

/-- The token of a row on a whole microsecond names that row again. -/
theorem decode_row {time : Moment} {id : Int64} (range : time.InRange)
    (whole : time.unixNanos % 1000 = 0) (positive : 0 < id) :
    decode (afterRow time id).encode = .ok (some ⟨.utc time.unixNanos, some id⟩) := by
  have micros : time.unixMicros.toInt * 1000 = time.unixNanos := by
    rw [toInt_unixMicros range, tdiv_whole whole]
  have kept : Moment.ofMicros? time.unixMicros.toInt = some (.utc time.unixNanos) := by
    simp only [Moment.ofMicros?, micros]
    exact if_pos range
  rw [decode_encode, afterRow, beforeMicros, ofPayload_row positive, ofMicros, kept]

/-- The token of a row whose time tokens cannot name is refused. -/
theorem decode_row_outside {time : Moment} {id : Int64}
    (outside : ¬ (Moment.utc (time.unixMicros.toInt * 1000)).InRange) (positive : 0 < id) :
    decode (afterRow time id).encode = .error (.malformed "timestamp was not in range") := by
  have lost : Moment.ofMicros? time.unixMicros.toInt = none := if_neg outside
  rw [decode_encode, afterRow, beforeMicros, ofPayload_row positive, ofMicros, lost]

private theorem outside_of_whole {time : Moment} (whole : time.unixNanos % 1000 = 0)
    (outside : ¬ time.InRange) :
    ¬ (Moment.utc (time.unixMicros.toInt * 1000)).InRange := by
  have low : Int64.minValue.toInt = -9223372036854775808 := rfl
  have high : Int64.maxValue.toInt = 9223372036854775807 := rfl
  have exactly := tdiv_whole whole
  simp only [Moment.InRange, Moment.utc, Moment.firstNanos, Moment.lastNanos, Moment.nanosPerSecond,
    Moment.unixMicros] at outside ⊢
  split
  · omega
  · split
    · omega
    · rwa [Int64.toInt_ofInt_of_le (by omega) (by omega), exactly]

/-- The token of a row on a whole microsecond names nothing but that row. -/
theorem eq_of_decode_row {time : Moment} {id : Int64} {c : Option LatestCursor}
    (whole : time.unixNanos % 1000 = 0) (positive : 0 < id)
    (accepted : decode (afterRow time id).encode = .ok c) :
    c = some ⟨.utc time.unixNanos, some id⟩ := by
  by_cases range : time.InRange
  · rw [decode_row range whole positive] at accepted
    exact (Except.ok.inj accepted).symm
  · rw [decode_row_outside (outside_of_whole whole range) positive] at accepted
    cases accepted

theorem canonical_of_decode {token : String} {c : LatestCursor}
    (accepted : decode token = .ok (some c)) : c.Canonical := by
  simp only [decode, bind, Except.bind] at accepted
  split at accepted
  · cases accepted
  · obtain ⟨rfl, positive⟩ := ofPayload_eq_some accepted
    exact ⟨by rw [beforeMicros_utc], positive⟩

end LatestCursor

namespace PopularCursor

private theorem faithful_payload : payload.Faithful := by
  simp [payload, Shape.Faithful, Fields.Faithful, Fields.names, Shape.absent?]

private theorem write_payload (likes id : Option Int64) :
    ∃ bs, payload.write (likes, id, ()) = .ok bs := by
  cases likes <;> cases id <;> exact ⟨_, rfl⟩

theorem trimmed_encode (c : PopularCursor) : trimmed? c.encode = some c.encode :=
  have ⟨_, written⟩ := write_payload (some c.likesCount) (some c.id)
  trimmed_encodePayload faithful_payload written

theorem decode_encode (c : PopularCursor) :
    decode c.encode = ofParts? (some c.likesCount) (some c.id) := by
  obtain ⟨bs, written⟩ := write_payload (some c.likesCount) (some c.id)
  have read := decodePayload_encodePayload faithful_payload written
  rw [decode, encode, read]
  rfl

theorem ofParts_row {likes n : Int64} (liked : 0 ≤ likes) (positive : 0 < n) :
    ofParts? (some likes) (some n) = .ok (some ⟨likes, n⟩) := by
  have noLess : ¬ likes < 0 := Int64.not_lt.mpr liked
  have nonnegative : ¬ n < 0 := Int64.lt_asymm positive
  have nonzero : n ≠ 0 := by rintro rfl; exact Int64.lt_irrefl positive
  simp [ofParts?, noLess, nonnegative, nonzero]

theorem decode_row {likes id : Int64} (liked : 0 ≤ likes) (positive : 0 < id) :
    decode (afterRow likes id).encode = .ok (some ⟨likes, id⟩) := by
  rw [decode_encode, afterRow, ofParts_row liked positive]

end PopularCursor

end ClipFeed.Feed
