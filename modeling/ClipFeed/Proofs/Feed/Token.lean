import ClipFeed.Http.FeedQuery
import ClipFeed.Proofs.Feed.Cursor
import ClipFeed.Proofs.Text.Form
/-!
The way of a token: made from a position, carried in a query and read back. What comes out is the
position rounded towards the epoch to a whole microsecond, unless its signs and zeros have a meaning
of their own.
-/

namespace ClipFeed.Text.Base64Url

private theorem symbol_verbatim {n : Nat} (small : n < 64) :
    Verbatim (Char.ofNat (symbol n).toNat) := by
  revert n; decide

private theorem encode_verbatim {bs : Bytes} {c : Char} (member : c ∈ (encode bs).toList) :
    Verbatim c := by
  rw [encode, String.toList_ofList] at member
  obtain ⟨b, present, rfl⟩ := List.mem_map.mp member
  obtain ⟨n, small, rfl⟩ := encodeBytes_symbols present
  exact symbol_verbatim small

end ClipFeed.Text.Base64Url

namespace ClipFeed.Feed

open Payload Text

/-- A token is written with letters, digits, hyphens and underscores alone. -/
theorem encodePayload_verbatim {s : Shape} {v : s.Val} {c : Char}
    (member : c ∈ (encodePayload s v).toList) : Verbatim c := by
  unfold encodePayload at member
  split at member
  · exact Base64Url.encode_verbatim member
  · simp at member

/-- A query whose only field is a token is read as that token. -/
theorem ofQuery_token {token : String} (verbatim : ∀ c ∈ token.toList, Verbatim c) :
    Http.FeedQuery.ofQuery (some ("cursor=" ++ token)) = .ok ⟨none, some token⟩ := by
  have field : "cursor=" ++ token = "cursor" ++ "=" ++ token := by rfl
  have named : ∀ c ∈ "cursor".toList, Verbatim c := by simp [Verbatim]
  rw [Http.FeedQuery.ofQuery, Option.getD_some, field, Form.pairs_field verbatim named]
  rfl

namespace LatestCursor

/-- Whether two positions lie at one instant and behind one row, or both behind none. -/
def Same (c d : LatestCursor) : Prop :=
  c.before.unixNanos = d.before.unixNanos ∧ c.id = d.id

/-- The position that is left of one when its time is cut to whole microseconds. -/
def inMicros (c : LatestCursor) : LatestCursor :=
  ⟨.utc (c.beforeMicros.toInt * 1000), c.id⟩

theorem toInt_beforeMicros {c : LatestCursor} (range : c.before.InRange) :
    c.beforeMicros.toInt = c.before.unixNanos.tdiv 1000 :=
  toInt_unixMicros range

private theorem tdiv_between (n : Int) :
    (0 ≤ n → 0 ≤ n.tdiv 1000 * 1000 ∧ n.tdiv 1000 * 1000 ≤ n) ∧
      (n ≤ 0 → n ≤ n.tdiv 1000 * 1000 ∧ n.tdiv 1000 * 1000 ≤ 0) := by
  have sign : Int.sign 1000 = 1 := rfl
  rw [Int.tdiv_eq_ediv, sign]
  split <;> omega

/-- A time that is cut stays among the years that tokens can name. -/
theorem inRange_inMicros {c : LatestCursor} (range : c.before.InRange) :
    c.inMicros.before.InRange := by
  have micros := toInt_beforeMicros range
  obtain ⟨late, early⟩ := tdiv_between c.before.unixNanos
  obtain ⟨first, last⟩ := range
  simp only [Moment.InRange, inMicros, Moment.utc, micros, Moment.firstNanos, Moment.lastNanos,
    Moment.nanosPerSecond] at first last ⊢
  rcases Int.le_total 0 c.before.unixNanos with after | before
  · have between := late after
    omega
  · have between := early before
    omega

private theorem same_inMicros {c : LatestCursor} (range : c.before.InRange)
    (whole : c.before.unixNanos % 1000 = 0) : c.inMicros.Same c := by
  refine ⟨?_, rfl⟩
  rw [inMicros, toInt_beforeMicros range]
  exact tdiv_whole whole

private theorem ofMicros_inMicros {c : LatestCursor} (range : c.before.InRange) :
    ofMicros c.beforeMicros c.id = .ok (some c.inMicros) := by
  have kept : Moment.ofMicros? c.beforeMicros.toInt = some c.inMicros.before :=
    if_pos (inRange_inMicros range)
  rw [ofMicros, kept]
  rfl

/-- A payload without a row whose time is after the epoch. -/
theorem ofPayload_unnamed {micros : Int64} (nonzero : ¬ micros = 0) (nonnegative : ¬ micros < 0) :
    ofPayload? micros none = ofMicros micros none := by
  simp [ofPayload?, ofMicros, nonzero, nonnegative, pure, Except.pure]
  rfl

/-- A position whose time tokens can name is read back by its signs and zeros alone. -/
theorem decode_encode_inRange {c : LatestCursor} (range : c.before.InRange) :
    decode c.encode =
      if ∃ id ∈ c.id, id < 0 then .error .negativeIdentifier
      else if c.beforeMicros = 0 ∧ (c.id = none ∨ c.id = some 0) then .ok none
      else if c.id = some 0 then .error .zeroIdentifier
      else if c.id = none ∧ c.beforeMicros < 0 then .error .negativeSortValue
      else .ok (some c.inMicros) := by
  have kept := ofMicros_inMicros range
  rw [decode_encode]
  cases named : c.id with
  | none =>
    rw [named] at kept
    by_cases start : c.beforeMicros = 0
    · simp [ofPayload?, start, pure, Except.pure]
    · by_cases early : c.beforeMicros < 0
      · simp [ofPayload?, start, early, pure, Except.pure, bind, Except.bind]
        rfl
      · simp only [ofPayload_unnamed start early, kept, start, early]
        simp
  | some id =>
    rw [named] at kept
    by_cases negative : id < 0
    · simp [ofPayload?, negative, pure, Except.pure, bind, Except.bind]
      rfl
    · by_cases zero : id = 0
      · by_cases start : c.beforeMicros = 0
        · simp [ofPayload?, zero, start, pure, Except.pure]
        · simp [ofPayload?, zero, start, pure, Except.pure, bind, Except.bind]
          rfl
      · rw [ofPayload_row (positive_of_accepted negative zero), kept]
        simp [negative, zero]

end LatestCursor

namespace PopularCursor

private theorem decode_encode_signs (c : PopularCursor) :
    decode c.encode =
      if c.likesCount < 0 then .error .negativeSortValue
      else if c.id < 0 then .error .negativeIdentifier
      else if c.likesCount = 0 ∧ c.id = 0 then .ok none
      else if c.id = 0 then .error .zeroIdentifier
      else .ok (some c) := by
  rw [decode_encode, ofParts?]
  by_cases zero : c.id = 0
  · by_cases start : c.likesCount = 0
    all_goals simp [zero, start]
  · simp [zero]

end PopularCursor

/-- The round trip of tokens. A position newest first keeps its time in whole microseconds, never
saturated; its token has letters, digits, hyphens and underscores alone and comes out of a query as
it went in; and it is read back as the position that was cut to microseconds, which is the same one
where nothing had to be cut, unless its signs or zeros are refused or mean the start of the feed. A
position by likes is read back as it is, with the same exceptions. -/
theorem tokens_round_trip :
    (∀ c : LatestCursor, c.before.InRange →
      c.beforeMicros.toInt = c.before.unixNanos.tdiv 1000 ∧
      (∀ symbol ∈ c.encode.toList, Verbatim symbol) ∧
      Form.decode (bytes c.encode) = c.encode ∧
      Http.FeedQuery.ofQuery (some ("cursor=" ++ c.encode)) = .ok ⟨none, some c.encode⟩ ∧
      LatestCursor.decode c.encode =
        (if ∃ id ∈ c.id, id < 0 then .error .negativeIdentifier
        else if c.beforeMicros = 0 ∧ (c.id = none ∨ c.id = some 0) then .ok none
        else if c.id = some 0 then .error .zeroIdentifier
        else if c.id = none ∧ c.beforeMicros < 0 then .error .negativeSortValue
        else .ok (some c.inMicros)) ∧
      (c.before.unixNanos % 1000 = 0 → c.inMicros.Same c)) ∧
    ∀ c : PopularCursor,
      PopularCursor.decode c.encode =
        if c.likesCount < 0 then .error .negativeSortValue
        else if c.id < 0 then .error .negativeIdentifier
        else if c.likesCount = 0 ∧ c.id = 0 then .ok none
        else if c.id = 0 then .error .zeroIdentifier
        else .ok (some c) := by
  constructor
  · intro c range
    have verbatim : ∀ symbol ∈ c.encode.toList, Verbatim symbol := by
      intro symbol member
      exact encodePayload_verbatim member
    exact ⟨LatestCursor.toInt_beforeMicros range, verbatim, Form.decode_verbatim verbatim,
      ofQuery_token verbatim, LatestCursor.decode_encode_inRange range,
      LatestCursor.same_inMicros range⟩
  · intro c
    exact c.decode_encode_signs

/-- A microsecond and a half before the epoch, written an hour east of Greenwich, is cut to one. -/
theorem tokens_round_trip_before_epoch :
    LatestCursor.decode (LatestCursor.mk ⟨-1500, 3600⟩ (some 5)).encode =
      .ok (some ⟨.utc (-1000), some 5⟩) := by
  have range : Moment.InRange ⟨-1500, 3600⟩ := by
    constructor
    · decide
    · decide
  obtain ⟨_, _, _, _, read, _⟩ := tokens_round_trip.1 ⟨⟨-1500, 3600⟩, some 5⟩ range
  rw [read]
  rfl

end ClipFeed.Feed
