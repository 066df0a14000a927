import ClipFeed.Proofs.Cache.Key
import ClipFeed.Proofs.Feed.Token
import ClipFeed.Proofs.Text.Blank
/-!
Normal forms of tokens. Many texts name one position; every text that is accepted at all names one
in normal form, which its own token names again and which alone decides under which key its page is
kept.
-/

namespace ClipFeed.Feed

open Payload Text Cache

theorem decodePayload_trim (s : Shape) (token : String) :
    decodePayload s (trim token) = decodePayload s token := by
  rw [decodePayload, decodePayload, trim_trim]

private theorem decodePayload_between
    {before behind : String} (first : Blank before) (last : Blank behind)
    (s : Shape) (token : String) :
    decodePayload s (before ++ token ++ behind) = decodePayload s token := by
  rw [decodePayload, decodePayload, trim_between first last]

private theorem one_le_of_positive {n : Int64} (positive : 0 < n) : 1 ≤ n := by
  have zero : (0 : Int64).toInt = 0 := rfl
  have one : (1 : Int64).toInt = 1 := rfl
  rw [Int64.lt_iff_toInt_lt, zero] at positive
  rw [Int64.le_iff_toInt_le, one]
  omega

namespace LatestCursor

/-- Whether a payload passes the checks of its signs and zeros without being the start of the
feed. -/
def Placed (micros : Int64) : Option Int64 → Prop
  | some id => 0 < id
  | none => 0 < micros

def timeOf (micros : Int64) : Moment :=
  .utc (micros.toInt * 1000)

private theorem ofPayload_placed {micros : Int64} {id : Option Int64} (placed : Placed micros id) :
    ofPayload? micros id = ofMicros micros id := by
  cases id with
  | some id => exact ofPayload_row placed
  | none =>
    have later : 0 < micros := placed
    exact ofPayload_unnamed (Int64.ne_of_lt later).symm (Int64.lt_asymm later)

private theorem placed_of_ofPayload {micros : Int64} {id : Option Int64} {c : LatestCursor}
    (accepted : ofPayload? micros id = .ok (some c)) : Placed micros id := by
  cases id with
  | some id => exact (ofPayload_eq_some accepted).2 id rfl
  | none =>
    by_cases zero : micros = 0
    · simp [ofPayload?, zero, pure, Except.pure] at accepted
    · by_cases negative : micros < 0
      · simp [ofPayload?, zero, negative, pure, Except.pure, bind, Except.bind] at accepted
      · exact positive_of_accepted negative zero

private theorem ofMicros_inRange
    {micros : Int64} (range : (timeOf micros).InRange) (id : Option Int64) :
    ofMicros micros id = .ok (some ⟨timeOf micros, id⟩) := by
  have kept : Moment.ofMicros? micros.toInt = some (timeOf micros) := if_pos range
  rw [ofMicros, kept]

private theorem ofMicros_outside {micros : Int64} (outside : ¬ (timeOf micros).InRange)
    (id : Option Int64) :
    ofMicros micros id = .error (.malformed "timestamp was not in range") := by
  have lost : Moment.ofMicros? micros.toInt = none := if_neg outside
  rw [ofMicros, lost]

private theorem ofPayload_eq_some_iff {micros : Int64} {id : Option Int64} {c : LatestCursor} :
    ofPayload? micros id = .ok (some c) ↔
      Placed micros id ∧ (timeOf micros).InRange ∧ c = ⟨timeOf micros, id⟩ := by
  constructor
  · intro accepted
    have placed := placed_of_ofPayload accepted
    refine ⟨placed, ?_, (ofPayload_eq_some accepted).1⟩
    by_cases range : (timeOf micros).InRange
    · exact range
    · rw [ofPayload_placed placed, ofMicros_outside range] at accepted
      cases accepted
  · rintro ⟨placed, range, rfl⟩
    rw [ofPayload_placed placed, ofMicros_inRange range]

theorem decode_of_payload {token : String} {micros : Int64} {id : Option Int64}
    (payload : decodePayload payload token = .ok (micros, id, ())) :
    decode token = ofPayload? micros id := by
  rw [decode, payload]
  rfl

private theorem exists_payload_of_decode {token : String} {c : Option LatestCursor}
    (accepted : decode token = .ok c) :
    ∃ micros id, decodePayload payload token = .ok (micros, id, ()) ∧
      ofPayload? micros id = .ok c := by
  cases read : decodePayload payload token with
  | error fault =>
    rw [decode, read] at accepted
    cases accepted
  | ok v =>
    obtain ⟨micros, id, ⟨⟩⟩ := v
    exact ⟨micros, id, rfl, (decode_of_payload read).symm.trans accepted⟩

/-- A token names a position exactly if its payload does, and then it is the payload's own. -/
theorem decode_eq_some_iff {token : String} {c : LatestCursor} :
    decode token = .ok (some c) ↔ ∃ micros id, decodePayload payload token = .ok (micros, id, ()) ∧
      Placed micros id ∧ (timeOf micros).InRange ∧ c = ⟨timeOf micros, id⟩ := by
  constructor
  · intro accepted
    obtain ⟨micros, id, read, named⟩ := exists_payload_of_decode accepted
    exact ⟨micros, id, read, ofPayload_eq_some_iff.mp named⟩
  · rintro ⟨micros, id, read, named⟩
    rw [decode_of_payload read]
    exact ofPayload_eq_some_iff.mpr named

/-- What is true of every position that a token names. -/
structure Normal (c : LatestCursor) : Prop where
  whole : c.before.unixNanos % 1000 = 0
  id : ∀ id ∈ c.id, 1 ≤ id
  later : c.id = none → 0 < c.before.unixNanos
  again : decode c.encode = .ok (some c)

private theorem normal_of_decode {token : String} {c : LatestCursor}
    (accepted : decode token = .ok (some c)) : c.Normal := by
  obtain ⟨micros, id, read, placed, range, rfl⟩ := decode_eq_some_iff.mp accepted
  refine ⟨?_, ?_, ?_, ?_⟩
  · exact Int.mul_emod_left micros.toInt 1000
  · rintro n ⟨⟩
    exact one_le_of_positive placed
  · rintro ⟨⟩
    have later : 0 < micros := placed
    rw [Int64.lt_iff_toInt_lt] at later
    have zero : (0 : Int64).toInt = 0 := rfl
    simp only [timeOf, Moment.utc]
    omega
  · rw [decode_encode, timeOf, beforeMicros_utc, ← timeOf]
    exact ofPayload_eq_some_iff.mpr ⟨placed, range, rfl⟩

private theorem decode_between {before behind : String} (first : Blank before) (last : Blank behind)
    (token : String) : decode (before ++ token ++ behind) = decode token := by
  rw [decode, decode, decodePayload_between first last]

private theorem canonical_of_decode_ok {token : String} {c : Option LatestCursor}
    (accepted : decode token = .ok c) : ∀ d ∈ c, d.Canonical := by
  rintro d rfl
  exact canonical_of_decode accepted

end LatestCursor

namespace PopularCursor

private theorem ofParts_eq_some_iff {likes id : Option Int64} {c : PopularCursor} :
    ofParts? likes id = .ok (some c) ↔
      likes = some c.likesCount ∧ id = some c.id ∧ 0 ≤ c.likesCount ∧ 0 < c.id := by
  constructor
  · intro accepted
    match likes, id with
    | none, none => cases accepted
    | none, some _ => cases accepted
    | some _, none => cases accepted
    | some likes, some id =>
      by_cases unliked : likes < 0
      · simp [ofParts?, unliked] at accepted
      · by_cases negative : id < 0
        · simp [ofParts?, unliked, negative] at accepted
        · by_cases zero : id = 0
          · by_cases start : likes = 0
            all_goals simp [ofParts?, zero, start, unliked] at accepted
          · simp only [ofParts?, unliked, negative, zero, ↓reduceIte] at accepted
            obtain rfl := Option.some.inj (Except.ok.inj accepted)
            exact ⟨rfl, rfl, Int64.not_lt.mp unliked,
              LatestCursor.positive_of_accepted negative zero⟩
  · rintro ⟨rfl, rfl, liked, positive⟩
    exact ofParts_row liked positive

structure Normal (c : PopularCursor) : Prop where
  liked : 0 ≤ c.likesCount
  id : 1 ≤ c.id
  again : decode c.encode = .ok (some c)

private theorem normal_of_decode {token : String} {c : PopularCursor}
    (accepted : decode token = .ok (some c)) : c.Normal := by
  cases read : decodePayload payload token with
  | error fault =>
    rw [decode, read] at accepted
    cases accepted
  | ok v =>
    rw [decode, read] at accepted
    obtain ⟨-, -, liked, positive⟩ := ofParts_eq_some_iff.mp accepted
    refine ⟨liked, one_le_of_positive positive, ?_⟩
    exact (decode_encode c).trans (ofParts_row liked positive)

private theorem decode_between {before behind : String} (first : Blank before) (last : Blank behind)
    (token : String) : decode (before ++ token ++ behind) = decode token := by
  rw [decode, decode, decodePayload_between first last]

end PopularCursor

/-- Tokens are read to normal forms. Whatever text is accepted, its position lies on a whole
microsecond, or has no negative number of likes, stands behind a row with a positive identifier or
behind the epoch, and is named again by its own token. Blanks around a token change nothing, not
even a fault. Two accepted tokens of one kind have one key, whatever the size of the page and
whoever views it, exactly if they name one position. A time that cannot be represented is refused,
and a time that is accepted is the one that the token names. -/
theorem tokens_normalise :
    (∀ token c, LatestCursor.decode token = .ok (some c) → c.Normal) ∧
    (∀ token c, PopularCursor.decode token = .ok (some c) → c.Normal) ∧
    (∀ before token behind, Blank before → Blank behind →
      LatestCursor.decode (before ++ token ++ behind) = LatestCursor.decode token ∧
      PopularCursor.decode (before ++ token ++ behind) = PopularCursor.decode token) ∧
    (∀ token other c d, LatestCursor.decode token = .ok c → LatestCursor.decode other = .ok d →
      ∀ limit viewer, ((Key.latest limit c).name = (Key.latest limit d).name ↔ c = d) ∧
        ((Key.following viewer limit c).name = (Key.following viewer limit d).name ↔ c = d)) ∧
    (∀ token other c d, PopularCursor.decode token = .ok c → PopularCursor.decode other = .ok d →
      ∀ limit, (Key.popular limit c).name = (Key.popular limit d).name ↔ c = d) ∧
    ∀ token micros id,
      decodePayload LatestCursor.payload token = .ok (micros, id, ()) →
      LatestCursor.Placed micros id →
      (¬ (LatestCursor.timeOf micros).InRange →
        LatestCursor.decode token = .error (.malformed "timestamp was not in range")) ∧
      ∀ c, LatestCursor.decode token = .ok c → c = some ⟨LatestCursor.timeOf micros, id⟩ := by
  refine ⟨fun _ _ => LatestCursor.normal_of_decode, fun _ _ => PopularCursor.normal_of_decode,
    ?_, ?_, ?_, ?_⟩
  · intro before token behind first last
    exact ⟨LatestCursor.decode_between first last token,
      PopularCursor.decode_between first last token⟩
  · intro token other c d first second limit viewer
    have here := LatestCursor.canonical_of_decode_ok first
    have there := LatestCursor.canonical_of_decode_ok second
    constructor
    · exact (Key.name_eq_iff_eq (k := .latest limit c) (l := .latest limit d) here there).trans
        (by simp)
    · exact (Key.name_eq_iff_eq (k := .following viewer limit c) (l := .following viewer limit d)
        here there).trans (by simp)
  · intro token other c d _ _ limit
    exact (Key.name_eq_iff_eq (k := .popular limit c) (l := .popular limit d) trivial trivial).trans
      (by simp)
  · intro token micros id read placed
    rw [LatestCursor.decode_of_payload read, LatestCursor.ofPayload_placed placed]
    refine ⟨fun outside => LatestCursor.ofMicros_outside outside id, ?_⟩
    intro c accepted
    by_cases range : (LatestCursor.timeOf micros).InRange
    · rw [LatestCursor.ofMicros_inRange range] at accepted
      exact (Except.ok.inj accepted).symm
    · rw [LatestCursor.ofMicros_outside range] at accepted
      cases accepted

/-- One position written as an object with a stranger between blanks and as a list, one without a
row, a position by likes, and a time in the far future. -/
theorem tokens_normalise_of_spellings :
    let object := "eyJ4IjpbMWU5XSwiaWQiOjcsImJlZm9yZV91cyI6NTAwMDAwMH0"
    let c : LatestCursor := ⟨.utc 5000000000, some 7⟩
    let d : LatestCursor := ⟨.utc 5000000000, none⟩
    LatestCursor.decode ("\u3000" ++ object ++ " \n") = .ok (some c) ∧ c.Normal ∧ d.Normal ∧
      PopularCursor.Normal ⟨0, 3⟩ ∧
      (Key.latest 10 (some c)).name ≠ (Key.latest 10 (some d)).name ∧
      (Key.popular 10 (some ⟨0, 3⟩)).name ≠ (Key.popular 10 none).name ∧
      LatestCursor.decode "WzkyMjMzNzIwMzY4NTQ3NzU4MDcsMV0" =
        .error (.malformed "timestamp was not in range") := by
  intro object c d
  obtain ⟨latest, popular, between, keys, popularKeys, range⟩ := tokens_normalise
  have read : LatestCursor.decode object = .ok (some c) := by decide +kernel
  have listed : LatestCursor.decode "WzUwMDAwMDAsN10" = .ok (some c) := by decide +kernel
  have unnamed : LatestCursor.decode "eyJiZWZvcmVfdXMiOjUwMDAwMDAsImlkIjpudWxsfQ" =
      .ok (some d) := by decide +kernel
  have liked : PopularCursor.decode "WzAsM10" = .ok (some ⟨0, 3⟩) := by decide +kernel
  have start : PopularCursor.decode "e30" = .ok none := by decide +kernel
  have padded := (between "\u3000" object " \n" (by decide) (by decide)).1
  refine ⟨padded.trans read, latest _ c listed, latest _ d unnamed, popular _ _ liked, ?_, ?_, ?_⟩
  · intro same
    have positions := (keys _ _ _ _ listed unnamed 10 1).1.mp same
    exact absurd positions (by decide)
  · intro same
    have positions := (popularKeys _ _ _ _ liked start 10).mp same
    exact absurd positions (by decide)
  · have payload : decodePayload LatestCursor.payload "WzkyMjMzNzIwMzY4NTQ3NzU4MDcsMV0" =
        .ok (Int64.maxValue, some 1, ()) := by
      rfl
    have placed : LatestCursor.Placed Int64.maxValue (some 1) := by
      change (0 : Int64) < 1
      decide
    have outside : ¬ (LatestCursor.timeOf Int64.maxValue).InRange := by
      intro inside
      exact absurd inside.2 (by decide)
    exact (range _ _ _ payload placed).1 outside

end ClipFeed.Feed
