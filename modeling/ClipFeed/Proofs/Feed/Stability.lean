import ClipFeed.Proofs.Feed.Scan
import ClipFeed.Proofs.Store.Versions
import Mathlib.Data.List.Nodup
/-!
Reading a feed while videos come and go. Every page is one that some version of the store has at
its token, whether it was asked for just now or had been kept in a cache for long; so no video is
returned twice, and none that was there all along is missing.
-/

namespace ClipFeed.Feed

open Store

/-- Which version of a store is the current one, and what a cache has been given so far. -/
structure Stage where
  version : Nat
  stored : Stored

/-- The answers of a store at one of its versions, or while it fails. -/
def answering (versions : Nat → Memory) : Nat × Option Fault → FixedStore
  | (n, none) => .ofMemory (versions n)
  | (_, some fault) => fun _ => .error fault

namespace Stage

/-- Callers around an honest cache and a store that may go on to its next version at any time and
may fail at any call. What the cache was given it may show for as long as it likes. -/
def surroundings (ι : Type) (versions : Nat → Memory) :
    Surroundings ι Effect Effect.Answer Stage where
  answers s _ q a s' := s'.version = s.version ∧
    ∃ failing, Honest (answering versions (s.version, failing)) s.stored q a s'.stored
  drifts s s' := s' = ⟨s.version + 1, s.stored⟩

variable (feeds : Service) (videos : Video.Service)

def begin {ι : Type} (readings : ι → Reading) :
    Pool ι Effect Effect.Answer (fun i => (readings i).Outcome) Stage :=
  ⟨⟨0, []⟩, fun i => (readings i).action feeds videos⟩

variable {ι : Type} {versions : Nat → Memory}

private theorem keeps_amidst : Pool.Keeps (surroundings ι versions) (amidst (answering versions))
    (fun _ _ => ()) (fun s => GenuineAmong (answering versions) s.stored) where
  answer genuine may honest := by
    obtain ⟨-, _, honest⟩ := honest
    obtain ⟨heard, kept⟩ := heard_amidst genuine may honest
    exact ⟨heard, kept, rfl, fun _ _ => rfl⟩
  drift genuine moved := by
    subst moved
    exact ⟨genuine, fun _ => rfl⟩

private theorem answering_congr
    {versions' : Nat → Memory} {n : Nat} (same : versions n = versions' n)
    (failing : Option Fault) :
    answering versions (n, failing) = answering versions' (n, failing) := by
  cases failing with
  | none => simp only [answering, same]
  | some fault => rfl

/-- What is reached does not depend on versions that are still to come. -/
theorem reaches_of_agree [DecidableEq ι] {versions' : Nat → Memory} {α : ι → Type}
    {p p' : Pool ι Effect Effect.Answer α Stage}
    (reached : Pool.Reaches (surroundings ι versions) p p')
    (same : ∀ n ≤ p'.shared.version, versions n = versions' n) :
    Pool.Reaches (surroundings ι versions') p p' := by
  induction reached with
  | refl => exact .refl
  | tail _ step ih =>
    cases step with
    | answer i asking a heard =>
      obtain ⟨kept, failing, honest⟩ := heard
      simp only [kept] at same
      rw [answering_congr (same _ (Nat.le_refl _)) failing] at honest
      exact (ih same).tail (.answer i asking a ⟨kept, failing, honest⟩)
    | drift moved =>
      subst moved
      exact (ih fun n within => same n (Nat.le_succ_of_le within)).tail (.drift rfl)

variable {feeds videos}

/-- A reading returns what it finds in a version that has been there. -/
theorem outcome_found [DecidableEq ι] {readings : ι → Reading}
    {p : Pool ι Effect Effect.Answer (fun i => (readings i).Outcome) Stage}
    (reached : Pool.Reaches (surroundings ι versions) (begin feeds videos readings) p) {i : ι}
    {o : (readings i).Outcome} (ended : p.callers i = .done o) :
    ∃ n ≤ p.shared.version, ∃ failing likes,
      o = ((answering versions (n, failing)).likedAs likes).result feeds.limits (readings i) := by
  let past (n : Nat) : Memory := versions (min n p.shared.version)
  have agree (n : Nat) (within : n ≤ p.shared.version) : versions n = past n :=
    (congrArg versions (Nat.min_eq_left within)).symm
  have sound : (begin feeds videos readings).Sound (amidst (answering past)) (fun _ _ => ())
      (fun s => GenuineAmong (answering past) s.stored) (fun i _ o => ∃ n k,
        o = ((answering past n).likedAs (answering past k)).result feeds.limits (readings i)) :=
    ⟨nofun, fun i => meets_reading feeds videos (readings i)⟩
  obtain ⟨⟨n, failing⟩, k, found⟩ :=
    (sound.reaches keeps_amidst (reaches_of_agree reached agree)).outcome ended
  refine ⟨min n p.shared.version, Nat.min_le_right .., failing, answering past k, ?_⟩
  cases failing <;> exact found

end Stage

/-- Whether a response is the page of a feed that a version of the store has at a token. -/
def Kind.ReadFrom (k : Kind) (m : Memory) (size : UInt32) (token : Option String) (viewer : Viewer)
    (r : Response) : Prop :=
  ∃ cursor liked, Service.position LatestCursor.decode token = .ok cursor ∧
    r = .ofPage (latestPage (m.scanLatest ⟨size, cursor⟩ (k.selects m viewer)) size) liked
      LatestCursor.encode

private theorem enriched_eq_ok {γ : Type} {store : FixedStore} {page : Except Fault (Page Video γ)}
    {viewer : Viewer} {encode : γ → String} {r : Response}
    (found : store.enriched page viewer encode = .ok r) :
    ∃ shown liked, page = .ok shown ∧ r = .ofPage shown liked encode := by
  cases page with
  | error fault => cases found
  | ok shown =>
    simp only [FixedStore.enriched] at found
    cases asked : store.likedBy viewer shown.items with
    | error fault =>
      rw [asked] at found
      cases found
    | ok liked =>
      rw [asked] at found
      exact ⟨shown, liked, rfl, (Except.ok.inj found).symm⟩

private theorem latestPage_answering {versions : Nat → Memory} {n : Nat} {failing : Option Fault}
    {likes : FixedStore} {request : PageRequest LatestCursor} {page : LatestPage} (viewer : Viewer)
    (found : ((answering versions (n, failing)).likedAs likes).latestPage request = .ok page) :
    page = latestPage ((versions n).scanLatest request (Kind.latest.selects (versions n) viewer))
      request.limit := by
  cases failing with
  | none => exact (Except.ok.inj found).symm
  | some fault => cases found

private theorem followedPage_answering {versions : Nat → Memory} {n : Nat} {failing : Option Fault}
    {likes : FixedStore} {request : PageRequest LatestCursor} {page : LatestPage} {viewer : Viewer}
    (found : ((answering versions (n, failing)).likedAs likes).followedPage viewer request =
      .ok page) :
    page = latestPage ((versions n).scanLatest request (Kind.following.selects (versions n) viewer))
      request.limit := by
  cases failing with
  | none =>
    have same : (FixedStore.ofMemory (versions n)).followedPage viewer request = _ :=
      followedPage_ofMemory request
    exact Except.ok.inj (found.symm.trans same)
  | some fault => cases viewer <;> cases found

/-- A page of a feed by time is found in one version. -/
theorem readFrom_of_result {versions : Nat → Memory} {n : Nat} {failing : Option Fault}
    {likes : FixedStore} {limits : Limits} {k : Kind} (dated : k ≠ .popular)
    {limit : Option UInt32} {token : Option String} {viewer : Viewer} {r : Response}
    (found : Except.ok r = ((answering versions (n, failing)).likedAs likes).result limits
      (.page k limit token viewer)) :
    k.ReadFrom (versions n) (limits.clamp limit) token viewer r := by
  cases read : Service.position LatestCursor.decode token with
  | error failure =>
    cases k with
    | popular => exact absurd rfl dated
    | latest | following =>
      simp only [FixedStore.result, FixedStore.pageFromToken, read] at found
      cases found
  | ok cursor =>
    cases k with
    | popular => exact absurd rfl dated
    | latest =>
      simp only [FixedStore.result, FixedStore.pageFromToken, read] at found
      obtain ⟨page, liked, shown, rfl⟩ := enriched_eq_ok found.symm
      obtain rfl := latestPage_answering viewer shown
      exact ⟨cursor, liked, read, rfl⟩
    | following =>
      simp only [FixedStore.result, FixedStore.pageFromToken, read] at found
      obtain ⟨page, liked, shown, rfl⟩ := enriched_eq_ok found.symm
      obtain rfl := followedPage_answering shown
      exact ⟨cursor, liked, read, rfl⟩

section

variable (rows : List Video) (size : UInt32) (liked : List Int64)

private theorem rows_ofPage :
    (Response.ofPage (latestPage rows size) liked LatestCursor.encode).rows = rows := by
  cases rows <;>
    simp [latestPage, Page.ofRows, Response.ofPage, Response.rows, Function.comp_def]

variable {rows size liked}

private theorem last_of_hasMore
    (more : (Response.ofPage (latestPage rows size) liked LatestCursor.encode).hasMore = true) :
    ∃ front w, rows = front ++ [w] ∧
      (Response.ofPage (latestPage rows size) liked LatestCursor.encode).nextCursor =
        some (LatestCursor.afterRow w.createdAt w.id).encode := by
  cases rows with
  | nil => cases more
  | cons v rows =>
    have split := List.dropLast_append_getLast (List.cons_ne_nil v rows)
    refine ⟨_, _, split.symm, ?_⟩
    simp [latestPage, Page.ofRows, Response.ofPage, List.getLast?_eq_getLast_of_ne_nil]

private theorem short_of_hasMore (positive : size ≠ 0)
    (done : (Response.ofPage (latestPage rows size) liked LatestCursor.encode).hasMore = false) :
    rows.length ≠ size.toNat := by
  have shows := shows_ofPage rows positive (fun v => LatestCursor.afterRow v.createdAt v.id) liked
    LatestCursor.encode
  exact beq_eq_false_iff_ne.mp (shows.hasMore.symm.trans done)

end

/-- Responses to the requests of one scan: the first names the start, each of the others has the
token of the response before it, and the last response says that there is no more. -/
structure FollowsTokens (tokens : Nat → Option String) (responses : Nat → Response) (last : Nat) :
    Prop where
  start : Service.position LatestCursor.decode (tokens 0) = .ok none
  more : ∀ n < last, (responses n).hasMore = true
  next : ∀ n < last, tokens (n + 1) = (responses n).nextCursor
  done : (responses last).hasMore = false

def idsThrough (responses : Nat → Response) (last : Nat) : List Int64 :=
  (List.range (last + 1)).flatMap fun n => (responses n).rows.map (·.id)

section

variable {versions : Nat → Memory} {k : Kind} {viewer : Viewer} {size : UInt32}
  {tokens : Nat → Option String} {responses : Nat → Response} {last : Nat} {reads : Nat → Nat}

/-- A token of a row that is accepted names the position behind that row. -/
theorem cursor_eq_of_position {time : Moment} {id : Int64} {cursor : Option LatestCursor}
    (whole : time.unixNanos % 1000 = 0) (positive : 0 < id)
    (named : Service.position LatestCursor.decode (some (LatestCursor.afterRow time id).encode) =
      .ok cursor) : cursor = some ⟨.utc time.unixNanos, some id⟩ := by
  simp only [Service.position, Option.bind_some, LatestCursor.trimmed_encode] at named
  cases decoded : LatestCursor.decode (LatestCursor.afterRow time id).encode with
  | error fault =>
    rw [decoded] at named
    cases named
  | ok found =>
    rw [decoded] at named
    obtain rfl := Except.ok.inj named
    exact LatestCursor.eq_of_decode_row whole positive decoded

/-- The responses of a scan are pages of which each goes on behind the one before. -/
theorem chain_of_readFrom (evolving : Evolving versions)
    (follows : FollowsTokens tokens responses last)
    (read : ∀ n ≤ last, k.ReadFrom (versions (reads n)) size (tokens n) viewer (responses n)) :
    ∃ cursors, Chain versions (fun m => k.selects m viewer) size reads cursors
      (fun n => (responses n).rows) last := by
  choose! cursors liked named shown using read
  have page (n : Nat) (within : n ≤ last) :
      (responses n).rows = (versions (reads n)).scanLatest ⟨size, cursors n⟩
        (k.selects (versions (reads n)) viewer) := by
    rw [shown n within, rows_ofPage]
  refine ⟨cursors, page, ?_, ?_⟩
  · exact Except.ok.inj ((named 0 (Nat.zero_le last)).symm.trans follows.start)
  · intro n earlier
    have within := Nat.le_of_lt earlier
    have more := follows.more n earlier
    have next := follows.next n earlier
    rw [shown n within] at more next
    obtain ⟨front, w, split, token⟩ := last_of_hasMore more
    have here : w ∈ (versions (reads n)).scanLatest ⟨size, cursors n⟩
        (k.selects (versions (reads n)) viewer) :=
      split ▸ List.mem_append_right front (List.mem_singleton_self w)
    have member := (mem_scanLatest here).1
    refine ⟨w, page n within ▸ here, ?_, ?_⟩
    · intro v shows
      rw [page n within] at shows
      exact scanLatest_last (evolving.distinct (reads n)) split v shows
    · have position := named (n + 1) earlier
      rw [next, token] at position
      exact cursor_eq_of_position (evolving.whole member) (evolving.positive member) position

/-- The identifiers that a scan returns, once each. -/
theorem nodup_idsThrough (evolving : Evolving versions)
    (follows : FollowsTokens tokens responses last)
    (read : ∀ n ≤ last, k.ReadFrom (versions (reads n)) size (tokens n) viewer (responses n)) :
    (idsThrough responses last).Nodup := by
  obtain ⟨_, chain⟩ := chain_of_readFrom evolving follows read
  exact chain.once evolving

/-- What was there whenever a page was read is returned. -/
theorem mem_idsThrough (evolving : Evolving versions) (positive : size ≠ 0)
    (follows : FollowsTokens tokens responses last)
    (read : ∀ n ≤ last, k.ReadFrom (versions (reads n)) size (tokens n) viewer (responses n))
    {id : Int64}
    (present : ∀ n ≤ last, id ∈ (k.matching (versions (reads n)) viewer).map (·.id)) :
    id ∈ idsThrough responses last := by
  obtain ⟨_, chain⟩ := chain_of_readFrom evolving follows read
  have short : (responses last).rows.length ≠ size.toNat := by
    obtain ⟨_, _, -, shown⟩ := read last (Nat.le_refl last)
    have done := follows.done
    rw [shown] at done ⊢
    rw [rows_ofPage]
    exact short_of_hasMore positive done
  obtain ⟨n, within, v, shows, rfl⟩ := chain.shown evolving short fun n within => by
    obtain ⟨v, found, same⟩ := List.mem_map.mp (present n within)
    obtain ⟨member, selected⟩ := List.mem_filter.mp found
    exact ⟨v, member, selected, same⟩
  exact List.mem_flatMap.mpr ⟨n, List.mem_range.mpr (Nat.lt_succ_of_le within),
    List.mem_map.mpr ⟨v, shows, rfl⟩⟩

end

/-- The requests of a scan and whatever else is read at the same time. -/
def scanning {κ : Type} (k : Kind) (limits : Nat → Option UInt32) (tokens : Nat → Option String)
    (viewer : Viewer) (others : κ → Reading) : Nat ⊕ κ → Reading :=
  Sum.elim (fun n => .page k (limits n) (tokens n) viewer) others

/-- A scan of a feed by time, while videos come and go and others read. Each of its pages is one
that a version of the store had, be it the current one or an earlier one that the cache still
shows; no video is returned twice; and whatever was there in all the versions from which the pages
may have been read is returned once. -/
theorem scan_stable {κ : Type} [DecidableEq κ] (feeds : Service) (videos : Video.Service)
    {versions : Nat → Memory} (evolving : Evolving versions) {k : Kind} (dated : k ≠ .popular)
    (viewer : Viewer) {size : UInt32} {limits : Nat → Option UInt32} {last : Nat}
    (constant : ∀ n ≤ last, feeds.limits.clamp (limits n) = size)
    {tokens : Nat → Option String} {responses : Nat → Response}
    (follows : FollowsTokens tokens responses last) (others : κ → Reading)
    {p : Pool (Nat ⊕ κ) Effect Effect.Answer
      (fun i => (scanning k limits tokens viewer others i).Outcome) Stage}
    (reached : Pool.Reaches (Stage.surroundings (Nat ⊕ κ) versions)
      (Stage.begin feeds videos (scanning k limits tokens viewer others)) p)
    (ended : ∀ n ≤ last, p.callers (.inl n) = .done (.ok (responses n))) :
    (∃ reads : Nat → Nat, ∀ n ≤ last, reads n ≤ p.shared.version ∧
      k.ReadFrom (versions (reads n)) size (tokens n) viewer (responses n)) ∧
    (idsThrough responses last).Nodup ∧
    ∀ reads : Nat → Nat,
      (∀ n ≤ last, k.ReadFrom (versions (reads n)) size (tokens n) viewer (responses n)) →
      size ≠ 0 → ∀ id, (∀ n ≤ last, id ∈ (k.matching (versions (reads n)) viewer).map (·.id)) →
      (idsThrough responses last).count id = 1 := by
  have found (n : Nat) (within : n ≤ last) : ∃ read ≤ p.shared.version,
      k.ReadFrom (versions read) size (tokens n) viewer (responses n) := by
    obtain ⟨read, before, _, _, result⟩ := Stage.outcome_found reached (ended n within)
    exact ⟨read, before, constant n within ▸ readFrom_of_result dated result⟩
  choose! reads read using found
  have once := nodup_idsThrough evolving follows fun n within => (read n within).2
  refine ⟨⟨reads, read⟩, once, ?_⟩
  intro reads read positive id present
  exact List.count_eq_one_of_mem once (mem_idsThrough evolving positive follows read present)

def listed (m : Memory) : FixedStore
  | .listLatest page => .ok ((m.videos.filter (behindLatest page.cursor)).take page.limit.toNat)
  | call => FixedStore.ofMemory m call

private theorem listed_eq_ofMemory
    {m : Memory} (sorted : m.videos.Pairwise fun v w => newestFirst v w) :
    listed m = FixedStore.ofMemory m := by
  funext call
  cases call with
  | listLatest page =>
    have kept : (m.videos.filter (behindLatest page.cursor)).mergeSort newestFirst = _ :=
      List.mergeSort_of_pairwise (sorted.sublist List.filter_sublist)
    simp [listed, FixedStore.ofMemory, Memory.perform, Memory.scanLatest, kept]
  | _ => rfl

/-- The answers to callers while no version fails and a cache forgets nothing. -/
def Stage.answer (versions : Nat → Memory) (s : Stage) (q : Effect) : q.Answer × Stage :=
  let reply := rememberingAnswer (listed (versions s.version)) s.stored q
  (reply.1, ⟨s.version, reply.2⟩)

private theorem Stage.answers_answer {ι : Type} {versions : Nat → Memory}
    (sorted : ∀ n, (versions n).videos.Pairwise fun v w => newestFirst v w) (i : ι) (s : Stage)
    (q : Effect) : (surroundings ι versions).answers s i q (s.answer versions q).1
      (s.answer versions q).2 := by
  refine ⟨rfl, none, ?_⟩
  rw [answering, ← listed_eq_ofMemory (sorted s.version)]
  exact honest_remembering s.stored q

def losing : Nat → Memory
  | 0 => ⟨[⟨2, 7, "ada", "dusk", none, "/p/2", "/c/2", 0, 0, .utc 2000⟩,
      ⟨1, 7, "ada", "dawn", none, "/p/1", "/c/1", 0, 0, .utc 1000⟩], [], []⟩
  | _ => ⟨[⟨1, 7, "ada", "dawn", none, "/p/1", "/c/1", 0, 0, .utc 1000⟩], [], []⟩

private theorem evolving_losing : Evolving losing where
  start := ⟨by decide, by simp [losing, Memory.places], by simp [losing, Memory.places, Moment.utc]⟩
  step n := by
    cases n with
    | zero => exact .remove 2 (.refl _)
    | succ n => exact .other (.refl _)

private theorem sorted_losing (n : Nat) :
    (losing n).videos.Pairwise fun v w => newestFirst v w := by
  cases n with
  | zero => decide
  | succ n => exact List.pairwise_singleton ..

def page? {κ : Type} {k : Kind} {limits : Nat → Option UInt32} {tokens : Nat → Option String}
    {viewer : Viewer} {others : κ → Reading} (p : Pool (Nat ⊕ κ) Effect Effect.Answer
      (fun i => (scanning k limits tokens viewer others i).Outcome) Stage) (n : Nat) :
    Option (Except Failure Response) :=
  p.outcome? (.inl n)

/-- A page that was kept before the newer video went leads on behind the place where it was. -/
theorem scan_stable_of_loss :
    let settings := Cache.Settings.standard
    let gateway := settings.gateway "memory"
    let feeds : Service := ⟨gateway, settings.listPolicy, .standard⟩
    let videos : Video.Service := ⟨gateway, settings.detailPolicy⟩
    let page (rows : List Video) : Response := .ofPage (latestPage rows 1) [] LatestCursor.encode
    let responses (n : Nat) : Response := page (((losing 0).videos.drop n).take 1)
    let tokens : Nat → Option String
      | 0 => none
      | n + 1 => (responses n).nextCursor
    let readings := scanning .latest (fun _ => some 1) tokens .anonymous
      fun _ : Unit => .page .latest (some 1) none .anonymous
    ∃ p, Pool.Reaches (Stage.surroundings _ losing) (Stage.begin feeds videos readings) p ∧
      (∀ n ≤ 2, p.callers (.inl n) = .done (.ok (responses n))) ∧
      (idsThrough responses 2).Nodup ∧ (idsThrough responses 2).count 1 = 1 := by
  intro settings gateway feeds videos page responses tokens readings
  let start := Stage.begin feeds videos readings
  let answer := Stage.answer losing
  let kept := start.settle answer (.inr ())
  let later : Pool (Nat ⊕ Unit) Effect Effect.Answer (fun i => (readings i).Outcome) Stage :=
    ⟨⟨kept.shared.version + 1, kept.shared.stored⟩, kept.callers⟩
  let p := ((later.settle answer (.inl 0)).settle answer (.inl 1)).settle answer (.inl 2)
  have may := Stage.answers_answer sorted_losing (ι := Nat ⊕ Unit)
  have reached : Pool.Reaches (Stage.surroundings _ losing) start p := by
    have first : Pool.Reaches (Stage.surroundings _ losing) start kept :=
      Pool.reaches_settle (may _) start
    have lost : Pool.Step (Stage.surroundings _ losing) kept later := .drift rfl
    exact (((first.tail lost).trans (Pool.reaches_settle (may _) _)).trans
      (Pool.reaches_settle (may _) _)).trans (Pool.reaches_settle (may _) _)
  have ended (n : Nat) (within : n ≤ 2) : p.callers (.inl n) = .done (.ok (responses n)) := by
    have paged : page? p n = some (.ok (responses n)) := by
      obtain rfl | rfl | rfl : n = 0 ∨ n = 1 ∨ n = 2 := by omega
      · decide +kernel
      · decide +kernel
      · decide +kernel
    exact Pool.outcome?_eq_some.mp paged
  have follows : FollowsTokens tokens responses 2 := ⟨rfl, by decide +kernel, fun _ _ => rfl, rfl⟩
  have constant (n : Nat) (_ : n ≤ 2) :
      feeds.limits.clamp ((fun _ => some 1 : Nat → Option UInt32) n) = 1 := rfl
  have present (n : Nat) : 1 ∈ (Kind.latest.matching (losing n) .anonymous).map (·.id) := by
    cases n with
    | zero => exact .tail _ (.head _)
    | succ n => exact .head _
  obtain ⟨⟨reads, read⟩, once, every⟩ := scan_stable feeds videos evolving_losing
    (show Kind.latest ≠ .popular by decide) .anonymous constant follows
    (fun _ => .page .latest (some 1) none .anonymous) reached ended
  exact ⟨p, reached, ended, once, every reads (fun n within => (read n within).2) (by decide) 1
    fun n _ => present (reads n)⟩

/-- A scan that asks for no rows at all ends at once and misses what is there. -/
theorem scan_empty_at_zero :
    let settings := Cache.Settings.standard
    let gateway := settings.gateway "memory"
    let feeds : Service := ⟨gateway, settings.listPolicy, ⟨0, 50⟩⟩
    let videos : Video.Service := ⟨gateway, settings.detailPolicy⟩
    let responses (_ : Nat) : Response := ⟨[], none, false⟩
    let readings := scanning .latest (fun _ => none) (fun _ => none) .anonymous (Empty.elim · )
    Evolving losing ∧ FollowsTokens (fun _ => none) responses 0 ∧
      ∃ p, Pool.Reaches (Stage.surroundings _ losing) (Stage.begin feeds videos readings) p ∧
        p.callers (.inl 0) = .done (.ok (responses 0)) ∧
        Kind.latest.ReadFrom (losing 0) (feeds.limits.clamp none) none .anonymous (responses 0) ∧
        1 ∈ (Kind.latest.matching (losing 0) .anonymous).map (·.id) ∧
        (idsThrough responses 0).count 1 = 0 := by
  intro settings gateway feeds videos responses readings
  let p := (Stage.begin feeds videos readings).settle (Stage.answer losing) (.inl 0)
  have paged : page? p 0 = some (.ok (responses 0)) := by decide +kernel
  exact ⟨evolving_losing, ⟨rfl, nofun, nofun, rfl⟩, p,
    Pool.reaches_settle (Stage.answers_answer sorted_losing _) _, Pool.outcome?_eq_some.mp paged,
    ⟨none, [], rfl, rfl⟩, .tail _ (.head _), rfl⟩

end ClipFeed.Feed
