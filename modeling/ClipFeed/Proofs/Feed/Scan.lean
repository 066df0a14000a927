import ClipFeed.Proofs.Service.Transparency
import ClipFeed.Proofs.Store.Scan
/-!
Reading a feed to its end. Whoever follows the tokens of a feed page by page sees every matching
video once and in order, in no more calls than full pages and one more, as long as the times of
the videos can be named by tokens.
-/

namespace ClipFeed.Feed

open Store

namespace Kind

/-- Whether a viewer finds a video in a feed. -/
def selects (m : Memory) (viewer : Viewer) : Kind → Video → Bool
  | .latest, _ => true
  | .popular, _ => true
  | .following, v =>
    match viewer.accountId? with
    | some follower => m.isFollowed follower v.authorId
    | none => true

def matching (k : Kind) (m : Memory) (viewer : Viewer) : List Video :=
  m.videos.filter (k.selects m viewer)

def Precedes : Kind → Video → Video → Prop
  | .latest, v, w | .following, v, w => w.createdAt.unixNanos < v.createdAt.unixNanos ∨
      v.createdAt.unixNanos = w.createdAt.unixNanos ∧ w.id < v.id
  | .popular, v, w => w.likesCount < v.likesCount ∨ v.likesCount = w.likesCount ∧ w.id < v.id

def order : Kind → Video → Video → Bool
  | .latest => newestFirst
  | .popular => mostLikedFirst
  | .following => newestFirst

/-- The videos that a viewer finds in a feed, in its order. -/
def rows (k : Kind) (m : Memory) (viewer : Viewer) : List Video :=
  (k.matching m viewer).mergeSort k.order

/-- The token of the position just behind a video. -/
def tokenAfter : Kind → Video → String
  | .latest, v => (LatestCursor.afterRow v.createdAt v.id).encode
  | .popular, v => (PopularCursor.afterRow v.likesCount v.id).encode
  | .following, v => (LatestCursor.afterRow v.createdAt v.id).encode

variable {m : Memory}

private theorem tells_order (ids : (m.videos.map (·.id)).Nodup) (k : Kind) (viewer : Viewer) :
    Tells k.order (k.matching m viewer) := by
  cases k with
  | latest => exact (tells_newestFirst ids).of_sublist List.filter_sublist
  | popular => exact (tells_mostLikedFirst ids).of_sublist List.filter_sublist
  | following => exact (tells_newestFirst ids).of_sublist List.filter_sublist

theorem rows_perm (k : Kind) (viewer : Viewer) :
    (k.rows m viewer).Perm (k.matching m viewer) :=
  List.mergeSort_perm ..

private theorem precedes_of_order {k : Kind} {v w : Video} (ordered : k.order v w)
    (apart : v.id ≠ w.id) : k.Precedes v w := by
  have other : v.id.toInt ≠ w.id.toInt := fun same => apart (Int64.toInt.inj same)
  cases k with
  | popular =>
    rw [order, mostLikedFirst_iff] at ordered
    simp only [Precedes, Int64.lt_iff_toInt_lt, ← Int64.toInt_inj]
    omega
  | latest | following =>
    rw [order, newestFirst_iff] at ordered
    simp only [Precedes, Int64.lt_iff_toInt_lt]
    omega

private theorem rows_pairwise (ids : (m.videos.map (·.id)).Nodup) (k : Kind) (viewer : Viewer) :
    (k.rows m viewer).Pairwise k.Precedes := by
  have apart : ((k.rows m viewer).map (·.id)).Nodup :=
    ((rows_perm k viewer).map _).nodup_iff.mpr (ids.sublist (List.filter_sublist.map _))
  exact ((tells_order ids k viewer).sorted.and (List.pairwise_map.mp apart)).imp
    fun both => precedes_of_order both.1 both.2

end Kind

def Response.rows (r : Response) : List Video :=
  r.videos.map (·.video)

/-- A response that shows some rows and leads on behind the last of them. -/
structure Response.Shows (r : Response) (size : Nat) (token : Video → String)
    (shown : List Video) : Prop where
  rows : r.rows = shown
  hasMore : r.hasMore = (shown.length == size)
  next : r.nextCursor = shown.getLast?.map token

theorem shows_ofPage {γ : Type} (shown : List Video) {limit : UInt32} (nonzero : limit ≠ 0)
    (cursorOf : Video → γ) (liked : List Int64) (encode : γ → String) :
    (Response.ofPage (Page.ofRows shown limit cursorOf) liked encode).Shows limit.toNat
      (fun v => encode (cursorOf v)) shown := by
  have positive : 0 ≠ limit.toNat := fun zero => nonzero (UInt32.toNat_inj.mp zero.symm)
  cases shown with
  | nil => exact ⟨rfl, by simp [Response.ofPage, Page.ofRows, positive], rfl⟩
  | cons v shown =>
    refine ⟨?_, rfl, ?_⟩
    · simp [Response.rows, Response.ofPage, Page.ofRows, Function.comp_def]
    · simp [Response.ofPage, Page.ofRows, Function.comp_def]

private theorem likedBy_ofMemory (m : Memory) (viewer : Viewer) (videos : List Video) :
    ∃ liked, (FixedStore.ofMemory m).likedBy viewer videos = .ok liked := by
  unfold FixedStore.likedBy
  cases viewer.accountId? with
  | none => exact ⟨_, rfl⟩
  | some account =>
    by_cases empty : videos.isEmpty
    · exact ⟨[], by simp [empty]⟩
    · exact ⟨_, by simp [empty, FixedStore.ofMemory, Memory.perform]; rfl⟩

/-- Likes never keep a page of this store from being shown. -/
theorem enriched_shows {γ : Type} (m : Memory) (shown : List Video) {limit : UInt32}
    (nonzero : limit ≠ 0) (cursorOf : Video → γ) (viewer : Viewer) (encode : γ → String) :
    ∃ r, (FixedStore.ofMemory m).enriched (.ok (Page.ofRows shown limit cursorOf)) viewer encode =
        .ok r ∧ r.Shows limit.toNat (fun v => encode (cursorOf v)) shown := by
  obtain ⟨liked, found⟩ := likedBy_ofMemory m viewer (Page.ofRows shown limit cursorOf).items
  refine ⟨.ofPage (.ofRows shown limit cursorOf) liked encode, ?_, shows_ofPage shown nonzero ..⟩
  simp only [FixedStore.enriched, found]

theorem clamp_ne_zero {l : Limits} (positive : 1 ≤ l.default) (requested : Option UInt32) :
    l.clamp requested ≠ 0 := by
  have default : l.default ≠ 0 := by
    rintro zero
    rw [zero] at positive
    exact absurd positive (by decide)
  unfold Limits.clamp
  split
  · split
    · next n granted =>
      rintro rfl
      simp at granted
    · exact default
  · exact default

variable {limits : Limits} {m : Memory} {limit : Option UInt32} {viewer : Viewer}

theorem followedPage_ofMemory (request : PageRequest LatestCursor) :
    (FixedStore.ofMemory m).followedPage viewer request =
      .ok (latestPage (m.scanLatest request (Kind.following.selects m viewer)) request.limit) := by
  unfold FixedStore.followedPage Kind.selects
  cases viewer.accountId? <;> rfl

/-- A token that names a position shows what a scan finds from there. -/
theorem page_latest {token : Option String} {cursor : Option LatestCursor} {shown : List Video}
    (positive : 1 ≤ limits.default)
    (named : Service.position LatestCursor.decode token = .ok cursor)
    (scan : m.scanLatest ⟨limits.clamp limit, cursor⟩ (Kind.latest.selects m viewer) = shown) :
    ∃ r, (FixedStore.ofMemory m).pageFromToken limits .latest limit token viewer = .ok r ∧
      r.Shows (limits.clamp limit).toNat Kind.latest.tokenAfter shown := by
  simp only [FixedStore.pageFromToken, named, bind, Except.bind]
  rw [← scan]
  exact enriched_shows m _ (clamp_ne_zero positive limit) _ viewer _

private theorem page_popular
    {token : Option String} {cursor : Option PopularCursor} {shown : List Video}
    (positive : 1 ≤ limits.default)
    (named : Service.position PopularCursor.decode token = .ok cursor)
    (scan : m.scanPopular ⟨limits.clamp limit, cursor⟩ = shown) :
    ∃ r, (FixedStore.ofMemory m).pageFromToken limits .popular limit token viewer = .ok r ∧
      r.Shows (limits.clamp limit).toNat Kind.popular.tokenAfter shown := by
  simp only [FixedStore.pageFromToken, named, bind, Except.bind]
  rw [← scan]
  exact enriched_shows m _ (clamp_ne_zero positive limit) _ viewer _

private theorem page_following
    {token : Option String} {cursor : Option LatestCursor} {shown : List Video}
    (positive : 1 ≤ limits.default)
    (named : Service.position LatestCursor.decode token = .ok cursor)
    (scan : m.scanLatest ⟨limits.clamp limit, cursor⟩ (Kind.following.selects m viewer) = shown) :
    ∃ r, (FixedStore.ofMemory m).pageFromToken limits .following limit token viewer = .ok r ∧
      r.Shows (limits.clamp limit).toNat Kind.following.tokenAfter shown := by
  simp only [FixedStore.pageFromToken, named, bind, Except.bind, followedPage_ofMemory]
  rw [← scan]
  exact enriched_shows m _ (clamp_ne_zero positive limit) _ viewer _

private theorem matching_popular : Kind.popular.matching m viewer = m.videos :=
  List.filter_eq_self.mpr fun _ _ => rfl

/-- The first page shows the first rows. -/
theorem page_start (positive : 1 ≤ limits.default) (k : Kind) :
    ∃ r, (FixedStore.ofMemory m).pageFromToken limits k limit none viewer = .ok r ∧
      r.Shows (limits.clamp limit).toNat k.tokenAfter
        ((k.rows m viewer).take (limits.clamp limit).toNat) := by
  cases k with
  | latest => exact page_latest positive rfl (scanLatest_start _ _)
  | popular =>
    rw [Kind.rows, matching_popular]
    exact page_popular positive rfl (scanPopular_start _)
  | following => exact page_following positive rfl (scanLatest_start _ _)

/-- What is asked of the videos of a store so that tokens name the rows of a feed: positive
identifiers of their own, no negative likes, and in the feeds by time, times on whole microseconds
that tokens can name. -/
structure Kind.Named (k : Kind) (m : Memory) : Prop where
  distinct : (m.videos.map (·.id)).Nodup
  positive : ∀ v ∈ m.videos, 0 < v.id
  liked : ∀ v ∈ m.videos, 0 ≤ v.likesCount
  whole : ∀ v ∈ m.videos, v.createdAt.unixNanos % 1000 = 0
  range : k ≠ .popular → ∀ v ∈ m.videos, v.createdAt.InRange

private theorem position_row {time : Moment} {id : Int64} (range : time.InRange)
    (whole : time.unixNanos % 1000 = 0) (positive : 0 < id) :
    Service.position LatestCursor.decode (some (LatestCursor.afterRow time id).encode) =
      .ok (some ⟨.utc time.unixNanos, some id⟩) := by
  simp [Service.position, LatestCursor.trimmed_encode, LatestCursor.decode_row range whole positive,
    Except.mapError]

/-- The page behind a row shows the rows that follow it. -/
theorem page_behind {k : Kind} (named : k.Named m) (positive : 1 ≤ limits.default)
    {front rest : List Video} {v : Video} (sorted : k.rows m viewer = front ++ v :: rest) :
    ∃ r, (FixedStore.ofMemory m).pageFromToken limits k limit (some (k.tokenAfter v)) viewer =
        .ok r ∧
      r.Shows (limits.clamp limit).toNat k.tokenAfter (rest.take (limits.clamp limit).toNat) := by
  have member : v ∈ m.videos := by
    have found : v ∈ k.rows m viewer := sorted ▸ List.mem_append_right _ (List.mem_cons_self ..)
    exact (List.mem_filter.mp ((k.rows_perm viewer).mem_iff.mp found)).1
  cases k with
  | latest =>
    exact page_latest positive (position_row (named.range nofun v member) (named.whole v member)
      (named.positive v member)) (scanLatest_row named.distinct _ sorted rfl rfl)
  | popular =>
    rw [Kind.rows, matching_popular] at sorted
    refine page_popular positive ?_ (scanPopular_row named.distinct _ sorted)
    simp [Service.position, Kind.tokenAfter, PopularCursor.trimmed_encode, Except.mapError,
      PopularCursor.decode_row (named.liked v member) (named.positive v member)]
  | following =>
    exact page_following positive (position_row (named.range nofun v member)
      (named.whole v member) (named.positive v member))
      (scanLatest_row named.distinct _ sorted rfl rfl)

/-- The pages of a loop that hands each token back as long as there may be more, if it ends well
within so many calls. -/
def collect (call : Option String → Except Failure Response) :
    (calls : Nat) → Option String → Option (List Response)
  | 0, _ => none
  | calls + 1, token =>
    match call token with
    | .error _ => none
    | .ok r =>
      if r.hasMore then
        match r.nextCursor with
        | some next => (collect call calls (some next)).map (r :: ·)
        | none => none
      else some [r]

/-- Pages that show rows in turn: full ones, and one at the end that is not. -/
inductive Covers (size : Nat) (token : Video → String) : List Video → List Response → Prop where
  | last {rows : List Video} {r : Response} (short : rows.length < size)
      (shows : r.Shows size token rows) : Covers size token rows [r]
  | more {rows : List Video} {r : Response} {pages : List Response} (long : size ≤ rows.length)
      (shows : r.Shows size token (rows.take size))
      (others : Covers size token (rows.drop size) pages) : Covers size token rows (r :: pages)

variable {size : Nat} {token : Video → String} {rows : List Video} {pages : List Response}

/-- A loop whose pages go on behind their last rows covers all rows. -/
theorem collect_covers (call : Option String → Except Failure Response) (positive : 0 < size)
    {begin : Option String}
    (first : ∃ r, call begin = .ok r ∧ r.Shows size token (rows.take size))
    (behind : ∀ front v back, rows = front ++ v :: back →
      ∃ r, call (some (token v)) = .ok r ∧ r.Shows size token (back.take size)) :
    ∃ pages, collect call (rows.length / size + 1) begin = some pages ∧
      Covers size token rows pages := by
  induction measure : rows.length using Nat.strongRecOn generalizing rows begin with
  | _ n ih =>
    subst measure
    obtain ⟨r, answered, shows⟩ := first
    by_cases short : rows.length < size
    · have whole : rows.take size = rows := List.take_of_length_le (by omega)
      rw [whole] at shows
      have ended : r.hasMore = false := by
        rw [shows.hasMore, beq_eq_false_iff_ne]
        omega
      exact ⟨[r], by simp [collect, answered, ended], .last short shows⟩
    · have long : size ≤ rows.length := Nat.le_of_not_lt short
      have full : (rows.take size).length = size := by rw [List.length_take]; omega
      obtain ⟨front, v, split⟩ : ∃ front v, rows.take size = front ++ [v] := by
        refine ⟨_, _, (List.dropLast_append_getLast (fun none => ?_)).symm⟩
        rw [none] at full
        simp at full
        omega
      have whole : rows = front ++ v :: rows.drop size := by
        rw [List.append_cons, ← split, List.take_append_drop]
      have more : r.hasMore = true := by rw [shows.hasMore, full, beq_self_eq_true]
      have next : r.nextCursor = some (token v) := by rw [shows.next, split]; simp
      obtain ⟨pages, collected, covers⟩ := ih (rows.drop size).length
        (by rw [List.length_drop]; omega) (behind front v _ whole)
        (fun others w back same => behind (rows.take size ++ others) w back (by
          rw [List.append_assoc, ← same, List.take_append_drop])) rfl
      have calls : rows.length / size = (rows.drop size).length / size + 1 := by
        rw [List.length_drop, Nat.div_eq_sub_div positive long]
      refine ⟨r :: pages, ?_, .more long shows covers⟩
      rw [calls, collect, answered]
      simp only [more, next, collected, ↓reduceIte, Option.map_some]

private theorem Covers.rows_eq (covers : Covers size token rows pages) :
    pages.flatMap Response.rows = rows := by
  induction covers with
  | last short shows => simp [shows.rows]
  | more long shows _ ih => rw [List.flatMap_cons, shows.rows, ih, List.take_append_drop]

theorem Covers.shows (covers : Covers size token rows pages) {r : Response} (member : r ∈ pages) :
    ∃ shown, r.Shows size token shown := by
  induction covers with
  | last _ shows =>
    obtain rfl := List.mem_singleton.mp member
    exact ⟨_, shows⟩
  | more _ shows _ ih =>
    rcases List.mem_cons.mp member with rfl | later
    · exact ⟨_, shows⟩
    · exact ih later

/-- Only the last page says that nothing more is to come. -/
theorem Covers.last_page (covers : Covers size token rows pages) {front back : List Response}
    {r : Response} (split : pages = front ++ r :: back) (ended : r.hasMore = false) :
    back = [] := by
  induction covers generalizing front with
  | last =>
    cases front with
    | nil => exact (List.cons.inj split).2.symm
    | cons _ front => simp at split
  | @more rows page pages long shows _ ih =>
    cases front with
    | nil =>
      obtain ⟨rfl, _⟩ := List.cons.inj split
      have full : (rows.take size).length = size := by rw [List.length_take]; omega
      rw [shows.hasMore, full, beq_self_eq_true] at ended
      cases ended
    | cons _ front => exact ih (List.cons.inj split).2

/-- Pages that a viewer has read of a whole feed. -/
structure Kind.ReadWhole (k : Kind) (m : Memory) (viewer : Viewer) (size : Nat)
    (pages : List Response) : Prop where
  /-- Every matching video is shown once, and nothing else is. -/
  every : (pages.flatMap Response.rows).Perm (k.matching m viewer)
  ordered : (pages.flatMap Response.rows).Pairwise k.Precedes
  full : ∀ r ∈ pages, r.hasMore = true ↔ r.videos.length = size
  /-- Where a page says that there is no more, nothing is missing. -/
  ended : ∀ front r back, pages = front ++ r :: back → r.hasMore = false →
    ∀ v ∈ k.matching m viewer, v ∈ (front ++ [r]).flatMap Response.rows
  next : ∀ r ∈ pages, r.nextCursor = none ↔ r.videos = []

private theorem length_rows (r : Response) : r.rows.length = r.videos.length := List.length_map _

private theorem readWhole_of_covers {k : Kind} (ids : (m.videos.map (·.id)).Nodup)
    (covers : Covers size token (k.rows m viewer) pages) : k.ReadWhole m viewer size pages where
  every := by
    rw [covers.rows_eq]
    exact k.rows_perm viewer
  ordered := by
    rw [covers.rows_eq]
    exact Kind.rows_pairwise ids k viewer
  full r member := by
    obtain ⟨shown, shows⟩ := covers.shows member
    rw [shows.hasMore, ← shows.rows, length_rows, beq_iff_eq]
  ended front r back split ended v member := by
    obtain rfl := covers.last_page split ended
    rw [← split, covers.rows_eq]
    exact (k.rows_perm viewer).mem_iff.mpr member
  next r member := by
    obtain ⟨shown, shows⟩ := covers.shows member
    have length := length_rows r
    rw [shows.next, Option.map_eq_none_iff, List.getLast?_eq_none_iff, ← List.length_eq_zero_iff,
      ← List.length_eq_zero_iff, ← length, shows.rows]

/-- Whoever hands each token back reads the whole feed, in at most one call more than there are
full pages, whatever an honest cache does and whoever else reads. -/
theorem scan_complete (feeds : Service) (videos : Video.Service)
    (limits : 1 ≤ feeds.limits.default ∧ feeds.limits.default ≤ feeds.limits.max) (m : Memory)
    (k : Kind) (named : k.Named m) (limit : Option UInt32) (viewer : Viewer)
    (call : Option String → Except Failure Response)
    (served : ∀ token, (Reading.page k limit token viewer).Returns feeds videos (.ofMemory m)
      (call token)) :
    let size := (feeds.limits.clamp limit).toNat
    ∃ pages, collect call ((k.matching m viewer).length / size + 1) none = some pages ∧
      k.ReadWhole m viewer size pages := by
  have answers (token : Option String) : call token =
      (FixedStore.ofMemory m).pageFromToken feeds.limits k limit token viewer :=
    (returns_iff feeds videos).mp (served token)
  have nonzero := clamp_ne_zero limits.1 limit
  have positive : 0 < (feeds.limits.clamp limit).toNat :=
    Nat.pos_of_ne_zero fun zero => nonzero (UInt32.toNat_inj.mp zero)
  have first : ∃ r, call none = .ok r ∧ r.Shows (feeds.limits.clamp limit).toNat k.tokenAfter
      ((k.rows m viewer).take (feeds.limits.clamp limit).toNat) := by
    rw [answers]
    exact page_start limits.1 k
  obtain ⟨pages, collected, covers⟩ := collect_covers call positive first
    fun front v back sorted => by
      rw [answers]
      exact page_behind named limits.1 sorted
  rw [(k.rows_perm viewer).length_eq] at collected
  exact ⟨pages, collected, readWhole_of_covers named.distinct covers⟩

/-- Two videos of one instant, read one at a time. -/
theorem scan_complete_of_tie :
    let settings := Cache.Settings.standard
    let gateway := settings.gateway "memory"
    let feeds : Service := ⟨gateway, settings.listPolicy, .standard⟩
    let m : Memory := ⟨[⟨1, 7, "ada", "dawn", none, "/p/1", "/c/1", 3, 3, .utc (-1000)⟩,
      ⟨2, 8, "bob", "dusk", none, "/p/2", "/c/2", 0, 0, ⟨-1000, 3600⟩⟩], [], [(5, 7), (5, 8)]⟩
    ∃ pages, collect (fun token => (FixedStore.ofMemory m).pageFromToken feeds.limits .following
        (some 1) token (.account 5)) (2 / 1 + 1) none = some pages ∧
      Kind.following.ReadWhole m (.account 5) 1 pages := by
  intro settings gateway feeds m
  have named : Kind.following.Named m := by
    refine ⟨by decide, ?_, ?_, ?_, fun _ => ?_⟩ <;>
      simp [m, Moment.utc, Moment.InRange, Moment.firstNanos, Moment.lastNanos,
        Moment.nanosPerSecond]
  exact scan_complete feeds ⟨gateway, settings.detailPolicy⟩ (by decide) m .following named (some 1)
    (.account 5) _ fun token => (returns_iff feeds _).mpr rfl

/-- A video whose local year is 9999 but whose year in UTC is 10000 leads to a token that is
refused, so that the loop ends with a failure. -/
theorem scan_stuck_past_last_year :
    let settings := Cache.Settings.standard
    let gateway := settings.gateway "memory"
    let feeds : Service := ⟨gateway, settings.listPolicy, .standard⟩
    let videos : Video.Service := ⟨gateway, settings.detailPolicy⟩
    let m : Memory := ⟨[⟨1, 7, "ada", "dawn", none, "/p/1", "/c/1", 3, 3,
      ⟨253402304399000000000, -3600⟩⟩], [], []⟩
    ((m.videos.map (·.id)).Nodup ∧ (∀ v ∈ m.videos, 0 < v.id) ∧ (∀ v ∈ m.videos, 0 ≤ v.likesCount) ∧
      ∀ v ∈ m.videos, v.createdAt.unixNanos % 1000 = 0) ∧
    ∀ call : Option String → Except Failure Response,
      (∀ token, (Reading.page .latest (some 1) token .anonymous).Returns feeds videos (.ofMemory m)
        (call token)) → ∀ calls, collect call calls none = none := by
  intro settings gateway feeds videos m
  refine ⟨⟨by decide, by simp [m], by simp [m], by simp [m]⟩, ?_⟩
  intro call served calls
  have answers (token : Option String) : call token =
      (FixedStore.ofMemory m).pageFromToken feeds.limits .latest (some 1) token .anonymous :=
    (returns_iff feeds videos).mp (served token)
  have positive : 1 ≤ feeds.limits.default := by decide
  have rows : Kind.latest.rows m .anonymous = m.videos := List.mergeSort_singleton _
  have begin : ∃ r, call none = .ok r ∧ r.Shows 1 Kind.latest.tokenAfter
      ((Kind.latest.rows m .anonymous).take 1) := by
    rw [answers]
    exact page_start positive .latest
  rw [rows] at begin
  obtain ⟨r, first, shows⟩ := begin
  have more : r.hasMore = true := shows.hasMore
  have next : r.nextCursor = some (LatestCursor.afterRow ⟨253402304399000000000, -3600⟩ 1).encode :=
    shows.next
  have outside : ¬ (Moment.utc ((Moment.mk 253402304399000000000 (-3600)).unixMicros.toInt *
      1000)).InRange := by
    unfold Moment.InRange
    decide
  have lost := LatestCursor.decode_row_outside outside (show (0 : Int64) < 1 by decide)
  have refused : call (some (LatestCursor.afterRow ⟨253402304399000000000, -3600⟩ 1).encode) =
      .error (.cursor (.malformed "timestamp was not in range")) := by
    rw [answers]
    simp [FixedStore.pageFromToken, Service.position, LatestCursor.trimmed_encode, lost,
      Except.mapError, bind, Except.bind]
  rcases calls with _ | _ | calls
  · rfl
  · simp [collect, first, more, next]
  · simp [collect, first, more, next, refused]

end ClipFeed.Feed
