import ClipFeed.Proofs.Cache.Key
import ClipFeed.Proofs.Dialogue.Transcript
import ClipFeed.Proofs.Feed.Isolation
import ClipFeed.Proofs.Feed.Token
import ClipFeed.Sql.Site
/-!
Names of keys against queries. Keys made from equal arguments, and only those, have one name, and
requests whose keys have one name send one statement for their page.
-/

namespace ClipFeed

open Text

private theorem Calendar.bounds_of_year {days : Int} (first : -9999 ≤ (Date.ofDays days).year)
    (last : (Date.ofDays days).year ≤ 9999) : -4371587 ≤ days ∧ days ≤ 2932896 := by
  have counted := toDays_ofDays days
  obtain ⟨early, late⟩ := month_ofDays days
  obtain ⟨start, inside⟩ := day_ofDays days
  have short := Nat.le_trans inside (Moment.daysInMonth_bound _ _)
  generalize Date.ofDays days = date at *
  obtain ⟨year, month, day⟩ := date
  simp only [Date.toDays] at *
  split at counted <;> omega

/-- Whether a moment is written with a year of at most four digits and at an offset below 26
hours. -/
structure Moment.Dated (m : Moment) : Prop where
  year : -9999 ≤ m.localDate.year ∧ m.localDate.year ≤ 9999
  offset : m.offset.natAbs < 93600

private theorem Moment.Dated.bounds {m : Moment} (dated : m.Dated) :
    firstNanos ≤ m.unixNanos + m.offset * nanosPerSecond ∧
      m.unixNanos + m.offset * nanosPerSecond ≤ lastNanos := by
  obtain ⟨first, last⟩ := Calendar.bounds_of_year dated.year.1 dated.year.2
  simp only [localSeconds, unixSeconds, firstNanos, lastNanos, nanosPerSecond] at *
  omega

namespace Feed.LatestCursor

/-- Whether the microseconds of a position tell its instant. -/
def Whole (c : LatestCursor) : Prop :=
  c.beforeMicros.toInt * 1000 = c.before.unixNanos

private theorem whole_of_dated {c : LatestCursor} (dated : c.before.Dated)
    (micros : c.before.unixNanos % 1000 = 0) : c.Whole := by
  obtain ⟨first, last⟩ := dated.bounds
  have near := dated.offset
  have low : Int64.minValue.toInt = -9223372036854775808 := rfl
  have high : Int64.maxValue.toInt = 9223372036854775807 := rfl
  have cut := tdiv_whole micros
  simp only [Moment.firstNanos, Moment.lastNanos, Moment.nanosPerSecond] at first last
  have notLow : ¬ c.before.unixNanos.tdiv 1000 < Int64.minValue.toInt := by omega
  have notHigh : ¬ Int64.maxValue.toInt < c.before.unixNanos.tdiv 1000 := by omega
  simp only [Whole, beforeMicros, Moment.unixMicros, notLow, notHigh, ↓reduceIte]
  rw [Int64.toInt_ofInt_of_le (by omega) (by omega), cut]

private theorem whole_of_decode {token : String} {c : LatestCursor}
    (accepted : decode token = .ok (some c)) : c.Whole := by
  have time := congrArg Moment.unixNanos (canonical_of_decode accepted).micros
  exact time.symm

private theorem micros_eq_iff {c d : LatestCursor} (first : c.Whole) (second : d.Whole) :
    c.beforeMicros = d.beforeMicros ↔ c.before.unixNanos = d.before.unixNanos := by
  rw [← first, ← second, Int.mul_eq_mul_right_iff (by decide), Int64.toInt_inj]

end Feed.LatestCursor

namespace Cache

open Feed

/-- The marks of positions are equal if and only if these are both the start, or lie at one instant
and behind one row. -/
theorem latestMark_eq_iff {c d : Option LatestCursor} (first : ∀ x ∈ c, x.Whole)
    (second : ∀ x ∈ d, x.Whole) :
    latestMark c = latestMark d ↔ Option.Rel LatestCursor.Same c d := by
  match c, d with
  | none, none => exact iff_of_true rfl .none
  | none, some d => exact iff_of_false nofun nofun
  | some c, none => exact iff_of_false nofun nofun
  | some c, some d =>
    rw [Option.rel_some_some, LatestCursor.Same,
      ← LatestCursor.micros_eq_iff (first c rfl) (second d rfl)]
    simp [latestMark]

private theorem latestPosition_congr
    {c d : Option LatestCursor} (same : latestMark c = latestMark d) :
    Key.latestPosition c = Key.latestPosition d := by
  match c, d with
  | none, none => rfl
  | some c, some d =>
    obtain ⟨times, rows⟩ := Prod.mk.inj (Option.some.inj same)
    simp only [Key.latestPosition, times, rows]

namespace Key

def Whole : Key → Prop
  | .video _ => True
  | .latest _ cursor => ∀ c ∈ cursor, c.Whole
  | .popular .. => True
  | .following _ _ cursor => ∀ c ∈ cursor, c.Whole

/-- Whether two keys are made in one way from equal arguments. Positions among the newest are equal
if they lie at one instant and behind one row. -/
inductive Agrees : Key → Key → Prop where
  | video (id : Int64) : Agrees (.video id) (.video id)
  | latest (limit : UInt32) {c d : Option LatestCursor} (same : Option.Rel LatestCursor.Same c d) :
      Agrees (.latest limit c) (.latest limit d)
  | popular (limit : UInt32) (c : Option PopularCursor) :
      Agrees (.popular limit c) (.popular limit c)
  | following (viewer : Int64) (limit : UInt32) {c d : Option LatestCursor}
      (same : Option.Rel LatestCursor.Same c d) :
      Agrees (.following viewer limit c) (.following viewer limit d)

private theorem agrees_of_mark_eq {k l : Key} (first : k.Whole) (second : l.Whole)
    (same : k.mark = l.mark) : k.Agrees l := by
  cases k <;> cases l <;> try cases same
  case video.video.refl => exact .video _
  case latest.latest limit cursor other position =>
    obtain ⟨rfl, positions⟩ := Mark.latest.inj same
    exact .latest limit ((latestMark_eq_iff first second).mp positions)
  case popular.popular.refl => exact .popular _ _
  case following.following viewer limit cursor reader other position =>
    obtain ⟨rfl, rfl, positions⟩ := Mark.following.inj same
    exact .following viewer limit ((latestMark_eq_iff first second).mp positions)

/-- Names tell keys apart exactly as their arguments do. -/
theorem name_eq_iff {k l : Key} (first : k.Whole) (second : l.Whole) :
    k.name = l.name ↔ k.Agrees l := by
  refine ⟨fun same => agrees_of_mark_eq first second (mark_eq_of_name_eq same), fun agrees => ?_⟩
  cases agrees with
  | video => rfl
  | latest limit same =>
    rw [name_latest, name_latest, latestPosition_congr ((latestMark_eq_iff first second).mpr same)]
  | popular => rfl
  | following viewer limit same =>
    rw [name_following, name_following,
      latestPosition_congr ((latestMark_eq_iff first second).mpr same)]

private theorem lockName_eq_iff {k l : Key} : k.lockName = l.lockName ↔ k.name = l.name :=
  ⟨name_eq_of_lockName_eq, congrArg ("lock:" ++ ·)⟩

def call : Key → Store.Call
  | .video id => .find id
  | .latest limit cursor => .listLatest ⟨limit, cursor⟩
  | .popular limit cursor => .listPopular ⟨limit, cursor⟩
  | .following viewer limit cursor => .listFollowing viewer ⟨limit, cursor⟩

def query : Key → Sql.Query
  | .video id => .find id
  | .latest limit cursor => .latest ⟨limit, cursor⟩
  | .popular limit cursor => .popular ⟨limit, cursor⟩
  | .following viewer limit cursor => .following viewer ⟨limit, cursor⟩

private theorem begins_call (k : Key) :
    ∃ next, Sql.Session.perform k.call = .ask (.query k.query) next := by
  cases k <;> exact ⟨_, rfl⟩

/-- A statement counts a position by its instant and its row. -/
theorem behindLatest_congr (q : Sql.Query) {c d : Option LatestCursor}
    (same : Option.Rel LatestCursor.Same c d) : q.behindLatest c = q.behindLatest d := by
  cases same with
  | none => rfl
  | @some c d same =>
    obtain ⟨before, id⟩ := c
    obtain ⟨after, row⟩ := d
    obtain ⟨instants, rfl⟩ := same
    have times : Sql.Parameter.moment before = .moment after := by
      rw [Sql.Parameter.moment, Sql.Parameter.moment, instants]
    cases id with
    | none => simp only [Sql.Query.behindLatest, times]
    | some id => simp only [Sql.Query.behindLatest, times]

private theorem Agrees.query_eq {k l : Key} (agrees : k.Agrees l) : k.query = l.query := by
  cases agrees with
  | video => rfl
  | latest limit same => simp only [query, Sql.Query.latest, behindLatest_congr _ same]
  | popular => rfl
  | following viewer limit same =>
    simp only [query, Sql.Query.following, behindLatest_congr _ same]

end Key

end Cache

namespace Feed.Request

open Cache

/-- Served without a cache, a request whose page has a key begins with the statement of that key. -/
theorem begins_serve {s : Service} {r : Request} {k : Key} (kept : r.key? s = some k) (i : String) :
    ∃ next, Sql.serve i (r.action s) = .ask (.query k.query) next := by
  match r with
  | .latest limit cursor .anonymous =>
    obtain rfl := Option.some.inj kept
    exact ⟨_, rfl⟩
  | .popular limit cursor viewer =>
    obtain rfl := Option.some.inj kept
    exact ⟨_, rfl⟩
  | .following limit cursor (.account id) =>
    obtain rfl := Option.some.inj kept
    exact ⟨_, rfl⟩

/-- What a request with a key asks of the store: the page of the key and who likes its videos. -/
def Asked (k : Key) : Effect → Prop
  | .store (.likedAmong ..) => True
  | .store call => call = k.call
  | _ => True

/-- Whatever is asked of the store is asked for likes or with the statement of the key. -/
theorem page_or_likes {k : Key} {call : Store.Call} (asked : Asked k (.store call)) :
    (∃ account ids, call = .likedAmong account ids) ∨
      ∃ next, Sql.Session.perform call = .ask (.query k.query) next := by
  have either : (∃ account ids, call = .likedAmong account ids) ∨ call = k.call := by
    cases call with
    | likedAmong account ids => exact .inl ⟨account, ids, rfl⟩
    | _ => exact .inr asked
  rcases either with likes | rfl
  · exact .inl likes
  · exact .inr k.begins_call

private theorem asks_action {s : Service} {r : Request} {k : Key} (kept : r.key? s = some k) :
    (r.action s).Asks (Asked k) := by
  have free (q : Effect) (other : ∀ call, q ≠ .store call) : Asked k q := by
    cases q with
    | store call => exact absurd rfl (other call)
    | _ => trivial
  have resolve {α ε : Type} (codec : Codec α) {compute : Action (Except ε α)}
      (asks : compute.Asks (Asked k)) :
      (s.gateway.resolve codec k s.policy compute).Asks (Asked k) :=
    s.gateway.asks_resolve_of_free free codec k s.policy asks
  have likes (account : Int64) (ids : List Int64) :
      Asked k (.store (.likedAmong account ids)) := trivial
  match r with
  | .latest limit cursor .anonymous =>
    obtain rfl := Option.some.inj kept
    exact (resolve _ (Session.asks_listing (.listLatest _) rfl)).bind fun page =>
      Session.asks_enrich likes page _ _
  | .popular limit cursor viewer =>
    obtain rfl := Option.some.inj kept
    exact (resolve _ (Session.asks_listing (.listPopular _) rfl)).bind fun page =>
      Session.asks_enrich likes page _ _
  | .following limit cursor (.account id) =>
    obtain rfl := Option.some.inj kept
    exact (resolve _ (Session.asks_listing (.listFollowing ..) rfl)).bind fun page =>
      Session.asks_enrich likes page _ _

end Feed.Request

/-- Every position with a time that can be given on a whole microsecond, and so every position from
a token, is told by its microseconds. Keys with such positions have one name if and only if they are
made in one way from equal arguments; locks have one name if and only if their keys have; and no
lock has the name of an entry. Requests whose keys have one name begin with one statement when
nothing is cached, and whatever is cached they ask for their page with that statement only. -/
theorem Cache.names_tell_queries :
    (∀ c : Feed.LatestCursor, c.before.Dated → c.before.unixNanos % 1000 = 0 → c.Whole) ∧
    (∀ token c, Feed.LatestCursor.decode token = .ok (some c) → c.Whole) ∧
    (∀ k l : Key, k.Whole → l.Whole → (k.name = l.name ↔ k.Agrees l)) ∧
    (∀ k l : Key, k.lockName = l.lockName ↔ k.name = l.name) ∧
    (∀ k l : Key, k.lockName ≠ l.name) ∧
    ∀ (s s' : Feed.Service) (r r' : Feed.Request) (k l : Key), r.key? s = some k →
      r'.key? s' = some l → k.Whole → l.Whole → k.name = l.name →
      ∃ q, (∀ i, ∃ next, Sql.serve i (r.action s) = .ask (.query q) next) ∧
        (∀ i, ∃ next, Sql.serve i (r'.action s') = .ask (.query q) next) ∧
        ∀ xs o call reply, (r.action s).Ends xs o ∨ (r'.action s').Ends xs o →
          ⟨.store call, reply⟩ ∈ xs → (∃ account ids, call = .likedAmong account ids) ∨
            ∃ next, Sql.Session.perform call = .ask (.query q) next := by
  refine ⟨fun _ => Feed.LatestCursor.whole_of_dated, fun _ _ => Feed.LatestCursor.whole_of_decode,
    fun _ _ => Key.name_eq_iff, fun _ _ => Key.lockName_eq_iff, Key.lockName_ne_name, ?_⟩
  intro s s' r r' k l kept kept' whole whole' same
  have queries := ((Key.name_eq_iff whole whole').mp same).query_eq
  refine ⟨k.query, r.begins_serve kept, queries ▸ r'.begins_serve kept', ?_⟩
  rintro xs o call reply (ended | ended) asked
  · exact Feed.Request.page_or_likes ((r.asks_action kept).of_ends ended _ asked)
  · rw [queries]
    exact Feed.Request.page_or_likes ((r'.asks_action kept').of_ends ended _ asked)

/-- One instant written at two offsets is one position to the database. -/
theorem Cache.names_tell_query_of_instant :
    let feeds : Feed.Service := ⟨⟨"memory", 5, 0, 2⟩, ⟨9, 3⟩, .standard⟩
    let early : Feed.LatestCursor := ⟨⟨-62135596800000000000, 0⟩, some 3⟩
    let same : Feed.LatestCursor := ⟨⟨-62135596800000000000, 5400⟩, some 3⟩
    (Key.latest 10 (some early)).name =
      "feed:latest:limit=10:before=-62135596800000000.3" ∧
    (Key.latest 10 (some early)).name = (Key.latest 10 (some same)).name ∧
    ∃ q, ∀ i, (∃ next, Sql.serve i (feeds.latest none (some early) .anonymous) =
        .ask (.query q) next) ∧
      ∃ next, Sql.serve i (feeds.latest (some 10) (some same) .anonymous) =
        .ask (.query q) next := by
  intro feeds early same
  obtain ⟨whole, -, named, -, -, sent⟩ := names_tell_queries
  have first : (Key.latest 10 (some early)).Whole := by
    rintro _ ⟨⟩
    exact whole _ ⟨by decide, by decide⟩ (by decide)
  have second : (Key.latest 10 (some same)).Whole := by
    rintro _ ⟨⟩
    exact whole _ ⟨by decide, by decide⟩ (by decide)
  have agree := (named _ _ first second).mpr (.latest 10 (.some ⟨rfl, rfl⟩))
  obtain ⟨q, early_sends, same_sends, _⟩ := sent feeds feeds (.latest none (some early) .anonymous)
    (.latest (some 10) (some same) .anonymous) _ _ rfl rfl first second agree
  exact ⟨by decide, agree, q, fun i => ⟨early_sends i, same_sends i⟩⟩

end ClipFeed
