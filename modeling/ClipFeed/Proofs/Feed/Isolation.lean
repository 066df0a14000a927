import ClipFeed.Cache.Settings
import ClipFeed.Feed.Service
import ClipFeed.Proofs.Cache.Course
import ClipFeed.Proofs.Feed.Session
import ClipFeed.Store.Memory
/-!
What viewers can learn of each other. Pages are shared through the cache, likes are not: another
choice of likes changes nobody's page and no entry, and a viewer's flags come from one question that
is asked for the viewer's own request, about the page that the store or the entry gave.
-/

namespace ClipFeed.Feed

open Text Cache

inductive Request where
  | latest (limit : Option UInt32) (cursor : Option LatestCursor) (viewer : Viewer)
  | popular (limit : Option UInt32) (cursor : Option PopularCursor) (viewer : Viewer)
  | following (limit : Option UInt32) (cursor : Option LatestCursor) (viewer : Viewer)
  deriving DecidableEq, Repr

namespace Request

def viewer : Request → Viewer
  | .latest _ _ viewer => viewer
  | .popular _ _ viewer => viewer
  | .following _ _ viewer => viewer

def action (s : Service) : Request → Action (Except Failure Response)
  | .latest limit cursor viewer => s.latest limit cursor viewer
  | .popular limit cursor viewer => s.popular limit cursor viewer
  | .following limit cursor viewer => s.following limit cursor viewer

/-- The key under which the page of a request is kept, if it is kept. -/
def key? (s : Service) : Request → Option Key
  | .latest limit cursor .anonymous => some (.latest (s.limits.clamp limit) cursor)
  | .latest _ _ (.account _) => none
  | .popular limit cursor _ => some (.popular (s.limits.clamp limit) cursor)
  | .following _ _ .anonymous => none
  | .following limit cursor (.account id) => some (.following id (s.limits.clamp limit) cursor)

/-- What may be asked until a request has its page. -/
def Paging (s : Service) (r : Request) : Effect → Prop
  | .cache _ call => ∃ key ∈ r.key? s, call.key = key.name ∨ call.key = key.lockName
  | .store (.likedAmong ..) => False
  | _ => True

end Request

/-- The account and the videos that a question after likes names. -/
def likesIn : Exchange → Option (Int64 × List Int64)
  | ⟨.store (.likedAmong account ids), _⟩ => some (account, ids)
  | _ => none

/-- A request with its outcome and all that was told on the way. -/
structure Served where
  request : Request
  outcome : Except Failure Response
  told : List Exchange

/-- What everybody sees of a page: its videos, the token of the next one and whether there is
more. -/
abbrev Unmarked := List Video × Option String × Bool

def Page.unmarked {γ : Type} (encode : γ → String) (p : Page Video γ) : Unmarked :=
  (p.items, p.nextCursor.map encode, p.hasMore)

def Response.unmarked (r : Response) : Unmarked :=
  (r.videos.map (·.video), r.nextCursor, r.hasMore)

/-- Whether a request was told of its page, by a listing of the store or by the entry of its key. -/
inductive Request.Finds (s : Service) (told : List Exchange) :
    Request → Except Store.Fault Unmarked → Prop where
  | latest {limit : Option UInt32} {cursor : Option LatestCursor} {viewer : Viewer}
      {rows : Except Store.Fault (List Video)}
      (listed : ⟨.store (.listLatest ⟨s.limits.clamp limit, cursor⟩), rows⟩ ∈ told) :
      Finds s told (.latest limit cursor viewer)
        ((rows.map (latestPage · (s.limits.clamp limit))).map (Page.unmarked LatestCursor.encode))
  | latestEntry {limit : Option UInt32} {cursor : Option LatestCursor} {time : Span} {bs : Bytes}
      {page : LatestPage} (shown : ⟨.cache time (.get
        (Key.latest (s.limits.clamp limit) cursor).name), .answered (some bs)⟩ ∈ told)
      (reads : LatestPage.codec.decode bs = .ok page) :
      Finds s told (.latest limit cursor .anonymous) (.ok (page.unmarked LatestCursor.encode))
  | popular {limit : Option UInt32} {cursor : Option PopularCursor} {viewer : Viewer}
      {rows : Except Store.Fault (List Video)}
      (listed : ⟨.store (.listPopular ⟨s.limits.clamp limit, cursor⟩), rows⟩ ∈ told) :
      Finds s told (.popular limit cursor viewer)
        ((rows.map (popularPage · (s.limits.clamp limit))).map (Page.unmarked PopularCursor.encode))
  | popularEntry {limit : Option UInt32} {cursor : Option PopularCursor} {viewer : Viewer}
      {time : Span} {bs : Bytes} {page : PopularPage} (shown : ⟨.cache time (.get
        (Key.popular (s.limits.clamp limit) cursor).name), .answered (some bs)⟩ ∈ told)
      (reads : PopularPage.codec.decode bs = .ok page) :
      Finds s told (.popular limit cursor viewer) (.ok (page.unmarked PopularCursor.encode))
  | unfollowing {limit : Option UInt32} {cursor : Option LatestCursor}
      {rows : Except Store.Fault (List Video)}
      (listed : ⟨.store (.listLatest ⟨s.limits.clamp limit, cursor⟩), rows⟩ ∈ told) :
      Finds s told (.following limit cursor .anonymous)
        ((rows.map (latestPage · (s.limits.clamp limit))).map (Page.unmarked LatestCursor.encode))
  | following {limit : Option UInt32} {cursor : Option LatestCursor} {account : Int64}
      {rows : Except Store.Fault (List Video)}
      (listed : ⟨.store (.listFollowing account ⟨s.limits.clamp limit, cursor⟩), rows⟩ ∈ told) :
      Finds s told (.following limit cursor (.account account))
        ((rows.map (latestPage · (s.limits.clamp limit))).map (Page.unmarked LatestCursor.encode))
  | followingEntry {limit : Option UInt32} {cursor : Option LatestCursor} {account : Int64}
      {time : Span} {bs : Bytes} {page : LatestPage} (shown : ⟨.cache time (.get
        (Key.following account (s.limits.clamp limit) cursor).name), .answered (some bs)⟩ ∈ told)
      (reads : LatestPage.codec.decode bs = .ok page) :
      Finds s told (.following limit cursor (.account account))
        (.ok (page.unmarked LatestCursor.encode))

theorem Request.Finds.mono {s : Service} {told more : List Exchange} {r : Request}
    {page : Except Store.Fault Unmarked} (finds : r.Finds s told page) (within : told ⊆ more) :
    r.Finds s more page := by
  cases finds with
  | latest listed => exact .latest (within listed)
  | latestEntry shown reads => exact .latestEntry (within shown) reads
  | popular listed => exact .popular (within listed)
  | popularEntry shown reads => exact .popularEntry (within shown) reads
  | unfollowing listed => exact .unfollowing (within listed)
  | following listed => exact .following (within listed)
  | followingEntry shown reads => exact .followingEntry (within shown) reads

/-- The questions after likes that a page calls for: one if an account gets videos, else none. -/
def likesDue : Viewer → Except Store.Fault Unmarked → List (Int64 × List Int64)
  | .account account, .ok (videos, _) =>
    if videos.isEmpty then [] else [(account, videos.map (·.id))]
  | _, _ => []

namespace Served

def likesAsked (x : Served) : List (Int64 × List Int64) :=
  x.told.filterMap likesIn

/-- Whether the viewer has an account and was told in this request that it likes a video. -/
def Likes (x : Served) (id : Int64) : Prop :=
  ∃ account ids liked, x.request.viewer = .account account ∧
    ⟨.store (.likedAmong account ids), .ok liked⟩ ∈ x.told ∧ id ∈ liked

/-- Whether an entry was read, written or removed. -/
def Touches (x : Served) (name : String) : Prop :=
  ∃ limit call reply, ⟨.cache limit call, reply⟩ ∈ x.told ∧ call.key = name

/-- A request that shows the page that it was told of, learns no more than it has to and keeps to
the entries of its viewer. -/
structure Discreet (feeds : Service) (x : Served) : Prop where
  shows : ∃ page, x.request.Finds feeds x.told page ∧
    x.outcome.map Response.unmarked = page.mapError Failure.store ∧
    x.likesAsked = likesDue x.request.viewer page
  marks : ∀ r, x.outcome = .ok r → ∀ item ∈ r.videos,
    item.isLiked = true ↔ x.Likes item.video.id
  latest : ∀ limit cursor, x.Touches (Key.latest limit cursor).name →
    ∃ limit cursor, x.request = .latest limit cursor .anonymous
  following : ∀ account limit cursor, x.Touches (Key.following account limit cursor).name →
    ∃ limit cursor, x.request = .following limit cursor (.account account)
  unfollowing : ∀ limit cursor, x.request = .following limit cursor .anonymous →
    ∀ name, ¬ x.Touches name

variable {x : Served} {feeds : Service}

/-- Questions of a whole request: those for its page, and the one after likes. -/
def Within (feeds : Service) (x : Served) : Prop :=
  ∀ exchange ∈ x.told, x.request.Paging feeds exchange.1 ∨
    ∃ account ids, exchange.1 = .store (.likedAmong account ids)

/-- Only the entry and the lock of its page are touched by a request. -/
theorem key_of_touches (within : x.Within feeds) {name : String} (touches : x.Touches name) :
    ∃ key ∈ x.request.key? feeds, name = key.name ∨ name = key.lockName := by
  obtain ⟨limit, call, reply, member, rfl⟩ := touches
  rcases within _ member with ⟨key, own, named⟩ | ⟨account, ids, same⟩
  · exact ⟨key, own, named⟩
  · cases same

private theorem mark_of_touches
    (within : x.Within feeds) {key : Key} (touches : x.Touches key.name) :
    ∃ own ∈ x.request.key? feeds, own.mark = key.mark := by
  obtain ⟨own, kept, named | locked⟩ := key_of_touches within touches
  · exact ⟨own, kept, Key.mark_eq_of_name_eq named.symm⟩
  · exact absurd locked.symm (Key.lockName_ne_name own key)

private theorem discreet_of_within (within : x.Within feeds) {page : Except Store.Fault Unmarked}
    (finds : x.request.Finds feeds x.told page)
    (unmarked : x.outcome.map Response.unmarked = page.mapError Failure.store)
    (asks : x.likesAsked = likesDue x.request.viewer page)
    (marks : ∀ r, x.outcome = .ok r → ∀ item ∈ r.videos,
      item.isLiked = true ↔ x.Likes item.video.id) : x.Discreet feeds where
  shows := ⟨page, finds, unmarked, asks⟩
  marks := marks
  latest := by
    intro limit cursor touches
    obtain ⟨own, kept, marked⟩ := mark_of_touches within touches
    obtain ⟨request, outcome, told⟩ := x
    match request, kept with
    | .latest limit cursor .anonymous, _ => exact ⟨limit, cursor, rfl⟩
    | .popular .., rfl => cases marked
    | .following _ _ (.account _), rfl => cases marked
  following := by
    intro account limit cursor touches
    obtain ⟨own, kept, marked⟩ := mark_of_touches within touches
    obtain ⟨request, outcome, told⟩ := x
    match request, kept with
    | .latest _ _ .anonymous, rfl => cases marked
    | .popular .., rfl => cases marked
    | .following limit cursor (.account id), rfl =>
      obtain ⟨rfl, -, -⟩ := Key.Mark.following.inj marked
      exact ⟨limit, cursor, rfl⟩
  unfollowing := by
    intro limit cursor same name touches
    obtain ⟨own, kept, -⟩ := key_of_touches within touches
    rw [same] at kept
    cases kept

end Served

namespace Session

variable {φ : Type}

def serve (feeds : Service) (b : Backdrop φ) (w : Whim) (s : Session φ) (r : Request) :
    Served × Session φ :=
  let (outcome, s) := (r.action feeds).run (answer b w) { s with told := [] }
  (⟨r, outcome, s.told⟩, s)

def serveAll (feeds : Service) (b : Backdrop φ) (w : Whim) :
    Session φ → List Request → List Served × Session φ
  | s, [] => ([], s)
  | s, r :: rs =>
    let (x, s) := s.serve feeds b w r
    let (xs, s) := s.serveAll feeds b w rs
    (x :: xs, s)

variable {feeds : Service} {b : Backdrop φ} {v w : Whim} {γ : Type}

/-- Without an account or without videos nobody is asked for likes. -/
theorem run_enrich_unasked {page : Page Video γ} {viewer : Viewer}
    (idle : viewer = .anonymous ∨ page.items = []) (encode : γ → String) (s : Session φ) :
    (Service.enrich (.ok page) viewer encode).run (answer b w) s =
      (.ok (.ofPage page [] encode), s) := by
  cases viewer with
  | anonymous => rfl
  | account id =>
    have empty : page.items = [] := idle.resolve_left nofun
    simp [Service.enrich, Service.likedBy, Viewer.accountId?, empty, bind, pure, Dialogue.run]

private theorem run_enrich_asked {page : Page Video γ} (some : page.items ≠ []) (account : Int64)
    (encode : γ → String) (s : Session φ) :
    let ids := page.items.map (·.id)
    let liked := w.liked s.asked account ids
    (Service.enrich (.ok page) (.account account) encode).run (answer b w) s =
      (.ok (.ofPage page liked encode), ⟨s.asked + 1, s.cache, s.stored,
        s.told ++ [⟨.store (.likedAmong account ids), .ok liked⟩]⟩) := by
  simp [Service.enrich, Service.likedBy, Viewer.accountId?, some, bind, pure, Dialogue.run,
    Action.store, Action.ask, Dialogue.request, answer, respond]

/-- A session that was told only what a request needs for its page. -/
def Paged (feeds : Service) (r : Request) (s : Session φ) : Prop :=
  ∀ exchange ∈ s.told, r.Paging feeds exchange.1

private theorem paged_of_asks
    {r : Request} {α : Type} {d : Action α} (asks : d.Asks (r.Paging feeds))
    (s : Session φ) : (d.run (answer b w) { s with told := [] }).2.Paged feeds r := by
  refine asks.keeps (p := Paged feeds r) ?_ fun _ member => absurd member List.not_mem_nil
  intro s q held may exchange member
  rcases List.mem_append.mp member with earlier | last
  · exact held exchange earlier
  · obtain rfl := List.mem_singleton.mp last
    exact may

variable {r : Request} {s : Session φ}

theorem Paged.unasked (paged : s.Paged feeds r) : s.told.filterMap likesIn = [] := by
  apply List.filterMap_eq_nil_iff.mpr
  intro exchange member
  have kind := paged exchange member
  unfold likesIn
  split
  · exact kind.elim
  · rfl

private theorem Paged.untold (paged : s.Paged feeds r) {account : Int64} {ids : List Int64}
    {liked : Except Store.Fault (List Int64)} :
    ⟨.store (.likedAmong account ids), liked⟩ ∉ s.told :=
  fun member => paged _ member

theorem unmarked_ofPage (page : Page Video γ) (liked : List Int64) (encode : γ → String) :
    (Response.ofPage page liked encode).unmarked = page.unmarked encode := by
  simp [Response.unmarked, Response.ofPage, Page.unmarked, Function.comp_def]

/-- A request that does not ask for likes is discreet if none are due and it shows none. -/
theorem discreet_of_unasked (paged : s.Paged feeds r) {outcome : Except Failure Response}
    {page : Except Store.Fault Unmarked} (finds : r.Finds feeds s.told page)
    (shown : outcome.map Response.unmarked = page.mapError Failure.store)
    (due : likesDue r.viewer page = [])
    (unmarked : ∀ response, outcome = .ok response → ∀ item ∈ response.videos,
      item.isLiked = false) : Served.Discreet feeds ⟨r, outcome, s.told⟩ := by
  refine Served.discreet_of_within (fun exchange member => .inl (paged exchange member)) finds
    shown ?_ ?_
  · rw [due]
    exact paged.unasked
  · intro response same item among
    rw [unmarked response same item among]
    refine ⟨nofun, ?_⟩
    rintro ⟨account, ids, liked, -, told, -⟩
    exact absurd told paged.untold

/-- A request that asks once for the likes of its account among the videos of its page is
discreet. -/
theorem discreet_of_asked (paged : s.Paged feeds r) {account : Int64}
    (viewer : r.viewer = .account account) {page : Page Video γ} (filled : page.items ≠ [])
    {encode : γ → String} (finds : r.Finds feeds s.told (.ok (page.unmarked encode)))
    (liked : List Int64) :
    Served.Discreet feeds ⟨r, .ok (.ofPage page liked encode),
      s.told ++ [⟨.store (.likedAmong account (page.items.map (·.id))), .ok liked⟩]⟩ := by
  have within : Served.Within feeds ⟨r, .ok (.ofPage page liked encode), s.told ++
      [⟨.store (.likedAmong account (page.items.map (·.id))), .ok liked⟩]⟩ := by
    intro exchange member
    rcases List.mem_append.mp member with earlier | last
    · exact .inl (paged exchange earlier)
    · obtain rfl := List.mem_singleton.mp last
      exact .inr ⟨_, _, rfl⟩
  refine Served.discreet_of_within within (finds.mono (List.subset_append_left _ _))
    (congrArg Except.ok (unmarked_ofPage page liked encode)) ?_ ?_
  · simp [Served.likesAsked, likesDue, paged.unasked, viewer, Page.unmarked, filled, likesIn]
  · intro response same item shown
    obtain rfl := Except.ok.inj same
    obtain ⟨video, -, rfl⟩ := List.mem_map.mp shown
    constructor
    · intro marked
      exact ⟨account, _, _, viewer, List.mem_append_right _ (List.mem_singleton_self _),
        List.contains_iff_mem.mp marked⟩
    · rintro ⟨_, ids, liked, -, told, among⟩
      rcases List.mem_append.mp told with earlier | last
      · exact absurd earlier paged.untold
      · cases List.mem_singleton.mp last
        exact List.contains_iff_mem.mpr among

/-- A request that finds its page and asks for likes only then is discreet. -/
theorem discreet_serve {page : Action (Except Store.Fault (Page Video γ))} {encode : γ → String}
    (whole : r.action feeds = page >>= (Service.enrich · r.viewer encode))
    (asks : page.Asks (r.Paging feeds))
    (finds : ∀ {xs found}, page.Ends xs found → r.Finds feeds xs (found.map (·.unmarked encode)))
    (s : Session φ) : (s.serve feeds b w r).1.Discreet feeds := by
  have paged := paged_of_asks (b := b) (w := w) asks s
  have found := finds (ends_told b w s page)
  simp only [serve, whole, Dialogue.run_bind]
  generalize page.run (answer b w) { s with told := [] } = reached at paged found
  obtain ⟨fault | page, s⟩ := reached
  · refine discreet_of_unasked paged found rfl ?_ nofun
    cases r.viewer <;> rfl
  · have shown (liked : List Int64) : (Except.ok (.ofPage page liked encode) :
        Except Failure Response).map Response.unmarked = .ok (page.unmarked encode) :=
      congrArg Except.ok (unmarked_ofPage page liked encode)
    cases viewer : r.viewer with
    | anonymous =>
      simp only [run_enrich_unasked (.inl rfl)]
      refine discreet_of_unasked paged found (shown []) ?_ fun response same item among => ?_
      · rw [viewer]
        rfl
      · obtain rfl := Except.ok.inj same
        obtain ⟨video, -, rfl⟩ := List.mem_map.mp among
        rfl
    | account id =>
      by_cases empty : page.items = []
      · simp only [run_enrich_unasked (.inr empty)]
        refine discreet_of_unasked paged found (shown []) ?_ fun response same item among => ?_
        · simp [likesDue, viewer, Page.unmarked, Except.map, empty]
        · obtain rfl := Except.ok.inj same
          simp [Response.ofPage, empty] at among
      · simp only [run_enrich_asked empty]
        exact discreet_of_asked paged viewer empty found _

theorem asks_resolve {α ε : Type} (g : Gateway) (codec : Codec α) {key : Key} (policy : Policy)
    (kept : r.key? feeds = some key) {compute : Action (Except ε α)}
    (asks : compute.Asks (r.Paging feeds)) :
    (g.resolve codec key policy compute).Asks (r.Paging feeds) := by
  refine g.asks_resolve ?_ ?_ (fun _ _ _ => ⟨key, kept, .inl rfl⟩) codec policy asks
  · intro q plain
    cases q with
    | cache limit call =>
      cases call with
      | get name => exact ⟨key, kept, .inl plain⟩
      | _ => exact plain.elim
    | store => exact plain.elim
    | _ => trivial
  · intro q locking
    cases q with
    | cache limit call =>
      cases call with
      | setIfAbsent name token ttl => exact ⟨key, kept, .inr locking⟩
      | deleteIfEquals name token => exact ⟨key, kept, .inr locking⟩
      | _ => exact locking.elim
    | store => exact locking.elim
    | _ => trivial

theorem asks_listing {α : Type} {ok : Effect → Prop} (call : Store.Call)
    {pageOf : Except Store.Fault call.Answer → α} (may : ok (.store call)) :
    Dialogue.Asks ok (do return pageOf (← Action.store call) : Action α) :=
  (Dialogue.asks_request may).bind fun _ => Dialogue.asks_done _

theorem ends_listing {α : Type} {call : Store.Call}
    {pageOf : Except Store.Fault call.Answer → α} {xs : List Exchange} {found : α}
    (ended : Dialogue.Ends (do return pageOf (← Action.store call) : Action α) xs found) :
    ∃ rows, xs = [⟨.store call, rows⟩] ∧ found = pageOf rows := by
  obtain ⟨_, rows, _, asked, rest, rfl⟩ := ended.of_bind
  obtain rfl := Dialogue.ends_request_iff.mp asked
  obtain ⟨rfl, rfl⟩ := Dialogue.ends_done_iff.mp rest
  exact ⟨rows, rfl, rfl⟩

/-- A page that is kept is found in its entry, or as it is without a cache. -/
theorem finds_resolve {s : Service} {codec : Codec (Page Video γ)} {key : Key} {policy : Policy}
    {compute : Action (Except Store.Fault (Page Video γ))} {encode : γ → String}
    (computed : ∀ {xs found}, compute.Ends xs found → r.Finds s xs (found.map (·.unmarked encode)))
    (kept : ∀ {xs : List Exchange} {time bs page},
      ⟨.cache time (.get key.name), .answered (some bs)⟩ ∈ xs → codec.decode bs = .ok page →
        r.Finds s xs (.ok (page.unmarked encode))) {xs : List Exchange}
    {found : Except Store.Fault (Page Video γ)}
    (ended : (s.gateway.resolve codec key policy compute).Ends xs found) :
    r.Finds s xs (found.map (·.unmarked encode)) := by
  rcases Gateway.found_or_computed ended with
    ⟨time, bs, page, shown, reads, rfl⟩ | ⟨during, ran, within⟩
  · exact kept shown reads
  · exact (computed ran).mono within

/-- A page that is made of one listing is found in it. -/
private theorem finds_listing {s : Service} {call : Store.Call} {encode : γ → String}
    {pageOf : Except Store.Fault call.Answer → Except Store.Fault (Page Video γ)}
    (listed : ∀ {xs : List Exchange} {rows}, ⟨.store call, rows⟩ ∈ xs →
      r.Finds s xs ((pageOf rows).map (·.unmarked encode)))
    {xs : List Exchange} {found : Except Store.Fault (Page Video γ)}
    (ended : Dialogue.Ends (do return pageOf (← Action.store call) : Action _) xs found) :
    r.Finds s xs (found.map (·.unmarked encode)) := by
  obtain ⟨rows, rfl, rfl⟩ := ends_listing ended
  exact listed (List.mem_singleton_self _)

/-- Behind its page a request asks for nothing but likes. -/
theorem asks_enrich {ok : Effect → Prop}
    (may : ∀ account ids, ok (.store (.likedAmong account ids))) {γ : Type}
    (page : Except Store.Fault (Page Video γ)) (viewer : Viewer) (encode : γ → String) :
    (Service.enrich page viewer encode).Asks ok := by
  cases page with
  | error fault => trivial
  | ok page =>
    refine Dialogue.Asks.bind ?_ fun liked => by cases liked <;> trivial
    unfold Service.likedBy
    split
    · split
      · trivial
      · exact Dialogue.asks_request (may _ _)
    · trivial

/-- Every request is discreet. -/
theorem discreet (feeds : Service) (b : Backdrop φ) (w : Whim) (s : Session φ) (r : Request) :
    (s.serve feeds b w r).1.Discreet feeds := by
  match r with
  | .latest limit cursor .anonymous =>
    exact discreet_serve rfl (asks_resolve _ _ _ rfl (asks_listing (.listLatest _) trivial))
      (finds_resolve (finds_listing .latest) .latestEntry) s
  | .latest limit cursor (.account id) =>
    exact discreet_serve rfl (asks_listing (.listLatest _) trivial) (finds_listing .latest) s
  | .popular limit cursor viewer =>
    exact discreet_serve rfl (asks_resolve _ _ _ rfl (asks_listing (.listPopular _) trivial))
      (finds_resolve (finds_listing .popular) .popularEntry) s
  | .following limit cursor .anonymous =>
    exact discreet_serve rfl (asks_listing (.listLatest _) trivial) (finds_listing .unfollowing) s
  | .following limit cursor (.account id) =>
    exact discreet_serve rfl (asks_resolve _ _ _ rfl (asks_listing (.listFollowing ..) trivial))
      (finds_resolve (finds_listing .following) .followingEntry) s

/-- Likes leave no trace but the marks. -/
theorem twins_enrich (page : Except Store.Fault (Page Video γ)) (viewer : Viewer)
    (encode : γ → String) :
    (Service.enrich page viewer encode).Twins (answer b v) (answer b w) (Twin none)
      (Service.enrich page viewer encode) fun o p s t =>
        o.map Response.unmarked = p.map Response.unmarked ∧ Twin none s t := by
  intro s t twin
  cases page with
  | error fault => exact ⟨rfl, twin⟩
  | ok page =>
    by_cases idle : viewer = .anonymous ∨ page.items = []
    · rw [run_enrich_unasked idle, run_enrich_unasked idle]
      exact ⟨rfl, twin⟩
    · obtain ⟨named, filled⟩ := not_or.mp idle
      cases viewer with
      | anonymous => exact absurd rfl named
      | account id =>
        rw [run_enrich_asked filled, run_enrich_asked filled]
        simp only [Except.map, unmarked_ofPage]
        exact ⟨trivial, twin.pass _ _⟩

private theorem twins_page {page : Action (Except Store.Fault (Page Video γ))}
    (same : page.Twins (answer b v) (answer b w) (Twin none) page fun x y s t =>
      x = y ∧ Twin none s t) (viewer : Viewer) (encode : γ → String) :
    (page >>= (Service.enrich · viewer encode)).Twins (answer b v) (answer b w) (Twin none)
      (page >>= (Service.enrich · viewer encode)) fun o p s t =>
        o.map Response.unmarked = p.map Response.unmarked ∧ Twin none s t :=
  same.bind fun x y s t related => by
    obtain ⟨rfl, twin⟩ := related
    exact twins_enrich x viewer encode s t twin

theorem twins_action (feeds : Service) (r : Request) :
    (r.action feeds).Twins (answer b v) (answer b w) (Twin none) (r.action feeds) fun o p s t =>
      o.map Response.unmarked = p.map Response.unmarked ∧ Twin none s t := by
  match r with
  | .latest limit cursor .anonymous =>
    exact twins_page (twins_resolve _ _ _ _ (asks_listing (.listLatest _) trivial)) .anonymous _
  | .latest limit cursor (.account id) =>
    exact twins_page (twins_of_asks (asks_listing (.listLatest _) trivial)) (.account id) _
  | .popular limit cursor viewer =>
    exact twins_page (twins_resolve _ _ _ _ (asks_listing (.listPopular _) trivial)) viewer _
  | .following limit cursor .anonymous =>
    exact twins_page (twins_of_asks (asks_listing (.listLatest _) trivial)) .anonymous _
  | .following limit cursor (.account id) =>
    exact twins_page (twins_resolve _ _ _ _ (asks_listing (.listFollowing ..) trivial)) (.account id) _

/-- One request leaves twins twins. -/
theorem Twin.serve {t : Session φ} (twin : Twin none s t) (feeds : Service) (r : Request) :
    (s.serve feeds b v r).1.outcome.map Response.unmarked =
        (t.serve feeds b w r).1.outcome.map Response.unmarked ∧
      Twin none (s.serve feeds b v r).2 (t.serve feeds b w r).2 :=
  twins_action feeds r { s with told := [] } { t with told := [] }
    ⟨twin.asked, twin.stored, twin.alike, twin.locked⟩

private theorem Twin.serveAll {t : Session φ} (twin : Twin none s t) (feeds : Service)
    (requests : List Request) :
    (s.serveAll feeds b v requests).1.map (·.outcome.map Response.unmarked) =
        (t.serveAll feeds b w requests).1.map (·.outcome.map Response.unmarked) ∧
      Twin none (s.serveAll feeds b v requests).2 (t.serveAll feeds b w requests).2 := by
  induction requests generalizing s t with
  | nil => exact ⟨rfl, twin⟩
  | cons r requests ih =>
    obtain ⟨same, next⟩ := twin.serve (b := b) (v := v) (w := w) feeds r
    obtain ⟨rest, last⟩ := ih next
    exact ⟨List.cons_eq_cons.mpr ⟨same, rest⟩, last⟩

private theorem request_serveAll (feeds : Service) (b : Backdrop φ) (w : Whim) (s : Session φ)
    (requests : List Request) : (s.serveAll feeds b w requests).1.map (·.request) = requests := by
  induction requests generalizing s with
  | nil => rfl
  | cons r requests ih => exact List.cons_eq_cons.mpr ⟨rfl, ih _⟩

private theorem discreet_serveAll (feeds : Service) (b : Backdrop φ) (w : Whim) (s : Session φ)
    (requests : List Request) : ∀ x ∈ (s.serveAll feeds b w requests).1, x.Discreet feeds := by
  induction requests generalizing s with
  | nil => exact fun x member => absurd member List.not_mem_nil
  | cons r requests ih =>
    intro x member
    rcases List.mem_cons.mp member with rfl | later
    · exact discreet feeds b w s r
    · exact ih _ x later

end Session

/-- Whatever is told about likes, and whatever tokens locks are marked with, the same requests get
the same responses up to their marks and leave the same entries; and every request is discreet. -/
theorem viewers_isolated {φ : Type} (feeds : Service) (b : Backdrop φ) (v w : Whim) (cache : Memory)
    (stored : φ) (requests : List Request) :
    let start : Session φ := ⟨0, cache, stored, []⟩
    let first := start.serveAll feeds b v requests
    let second := start.serveAll feeds b w requests
    (∀ name, (∀ key : Key, name ≠ key.lockName) →
      first.2.cache.entry? name = second.2.cache.entry? name) ∧
    first.1.map (·.outcome.map Response.unmarked) =
      second.1.map (·.outcome.map Response.unmarked) ∧
    first.1.map (·.request) = requests ∧ second.1.map (·.request) = requests ∧
    (∀ x ∈ first.1, x.Discreet feeds) ∧ ∀ x ∈ second.1, x.Discreet feeds := by
  intro start first second
  have twin : Session.Twin none start start := ⟨rfl, rfl, .refl cache, nofun⟩
  obtain ⟨responses, last⟩ := twin.serveAll (b := b) (v := v) (w := w) feeds requests
  exact ⟨last.alike.entries, responses, Session.request_serveAll .., Session.request_serveAll ..,
    Session.discreet_serveAll feeds b v start requests,
    Session.discreet_serveAll feeds b w start requests⟩

/-- One account fills the entry of the popular page, another one reads it and is asked for its own
likes; where nobody likes anything, the entry is the same. -/
theorem popular_page_shared :
    let settings := Settings.standard
    let feeds : Service := ⟨settings.gateway "memory", settings.listPolicy, .standard⟩
    let video : Video := ⟨1, 7, "ada", "dawn", none, "/p/1", "/c/1", 3, 3, .utc 0⟩
    let b : Backdrop Store.Memory := ⟨(1000 * ·), Store.Memory.perform⟩
    let v : Whim := ⟨fun _ account ids => if account = 6 then ids else [], toString⟩
    let w : Whim := ⟨fun _ _ _ => [], fun n => toString (n + 1)⟩
    let key : Key := .popular 10 none
    let kept := (PopularPage.codec.encode (popularPage [video] 10)).toOption
    let store : Store.Memory := ⟨[video], [], []⟩
    let start : Session Store.Memory := ⟨0, .empty, store, []⟩
    let requests : List Request :=
      [.popular none none (.account 5), .popular none none (.account 6)]
    let served := (start.serveAll feeds b v requests).1
    let operations (x : Served) := x.told.filterMap Operation.ofExchange?
    kept.isSome ∧
    served.map (fun x => Operation.stores (operations x)) =
      [kept.toList.map fun bs => (key.name, bs, Span.seconds 5), []] ∧
    served.map (fun x => Operation.lookups (operations x)) =
      [[.answered none, .answered none], [.answered kept]] ∧
    served.map (·.likesAsked) = [[(5, [1])], [(6, [1])]] ∧
    served.map (·.outcome.toOption.map (·.videos)) =
      [some [⟨video, false⟩], some [⟨video, true⟩]] ∧
    (∀ x ∈ served, x.Discreet feeds) ∧
    (start.serveAll feeds b v requests).2.cache.entry? key.name =
      (start.serveAll feeds b w requests).2.cache.entry? key.name := by
  intro settings feeds video b v w key kept store start requests served operations
  obtain ⟨entries, -, -, -, discreet, -⟩ :=
    viewers_isolated feeds b v w .empty store requests
  have told : kept.isSome ∧
      served.map (fun x => Operation.stores (operations x)) =
        [kept.toList.map fun bs => (key.name, bs, Span.seconds 5), []] ∧
      served.map (fun x => Operation.lookups (operations x)) =
        [[.answered none, .answered none], [.answered kept]] ∧
      served.map (·.likesAsked) = [[(5, [1])], [(6, [1])]] ∧
      served.map (·.outcome.toOption.map (·.videos)) =
        [some [⟨video, false⟩], some [⟨video, true⟩]] := by
    decide +kernel
  obtain ⟨written, stored, looked, asked, shown⟩ := told
  have apart : ∀ other : Key, key.name ≠ other.lockName :=
    fun other => (Key.lockName_ne_name other key).symm
  refine ⟨written, stored, looked, asked, shown, discreet, ?_⟩
  -- Both sides have to agree as they are written, or the sessions would be run to compare them.
  dsimp only [start]
  exact entries key.name apart

end ClipFeed.Feed
