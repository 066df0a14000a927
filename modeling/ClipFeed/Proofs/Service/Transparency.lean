import ClipFeed.Cache.Backend
import ClipFeed.Cache.Settings
import ClipFeed.Proofs.Cache.Memory
import ClipFeed.Proofs.Service.Reading
/-!
Readings through an honest cache. Such a cache may fail, stay silent, forget and mix things up, but
under a name it answers only what was stored there or what nobody can read. Then every reading
returns what the store alone would make of it, whatever runs at the same time.
-/

namespace ClipFeed

open Feed Cache Text

/-- What is heard from a store that does not change and from an honest cache. -/
def Heard (store : FixedStore) : (q : Effect) → q.Answer → Prop
  | .cache _ (.get name), .answered (some bs) => Genuine store name bs
  | .store call, a => a = store call
  | _, _ => True

/-- What may be asked of an honest cache: only genuine bytes are stored. -/
def MayAsk (store : FixedStore) : Effect → Prop
  | .cache _ (.set name bs _) => Genuine store name bs
  | _ => True

/-- Genuine bytes for genuine bytes. -/
def honestly (store : FixedStore) : Contract Effect Effect.Answer Unit where
  asks _ := MayAsk store
  hears _ := Heard store
  write _ _ _ := ()

/-- The same where every answer may come from another store. -/
def amidst {ν : Type} (stores : ν → FixedStore) : Contract Effect Effect.Answer Unit where
  asks _ q := ∃ n, MayAsk (stores n) q
  hears _ q a := ∃ n, Heard (stores n) q a
  write _ _ _ := ()

/-- A single store is no choice. -/
theorem meets_honestly {store : FixedStore} {α : Type} {d : Action α} {promised : Unit → α → Prop}
    (meets : d.Meets (amidst fun _ : Unit => store) promised ()) :
    d.Meets (honestly store) promised () := by
  refine meets.relax ?_ ?_ ?_
  · rintro _ _ ⟨_, may⟩
    exact may
  · exact fun _ _ _ heard => ⟨(), heard⟩
  · exact fun _ _ _ => rfl

section

variable {ν : Type} [Nonempty ν] {stores : ν → FixedStore}

theorem meets_store (call : Store.Call) : (Action.store call).Meets (amidst stores)
    (fun _ a => ∃ n, a = stores n call) () :=
  have ⟨n⟩ := ‹Nonempty ν›
  ⟨⟨n, trivial⟩, fun _ heard => heard⟩

private theorem mayAsk_of_ne_set {store : FixedStore} {q : Effect}
    (fillsNothing : ∀ limit name bs ttl, q ≠ .cache limit (.set name bs ttl)) : MayAsk store q := by
  cases q with
  | cache limit call =>
    cases call with
    | set name bs ttl => exact absurd rfl (fillsNothing limit name bs ttl)
    | _ => trivial
  | _ => trivial

/-- A key's resolution may promise what one of the stores has for it. -/
theorem grants_key {ε : Type} {k : Key} (canonical : k.Canonical)
    {expected : ν → Except ε k.Value}
    (agrees : ∀ n v, k.valueIn (stores n) = some v ↔ expected n = .ok v) :
    Grants (amidst stores) k k.codec (fun _ o => ∃ n, o = expected n)
      (fun _ o => ∃ n, o = expected n) where
  plain _ _ plain := ‹Nonempty ν›.elim fun n =>
    ⟨n, mayAsk_of_ne_set fun _ _ _ _ same => by subst same; exact plain⟩
  locking _ _ locking := ‹Nonempty ν›.elim fun n =>
    ⟨n, mayAsk_of_ne_set fun _ _ _ _ same => by subst same; exact locking⟩
  hit := by
    rintro _ _ _ v ⟨n, heard⟩ decoded
    exact ⟨n, ((agrees n v).mp (heard k canonical rfl v decoded)).symm⟩
  fill := by
    rintro _ _ v _ _ ⟨n, made⟩ encoded
    exact ⟨n, genuine_of_encode canonical ((agrees n v).mpr made.symm) encoded⟩
  suffices_computed _ _ made := made
  lasts _ _ _ _ made := made
  lasts_computed _ _ _ _ made := made

theorem meets_resolution {ε : Type} {g : Gateway} {k : Key} (canonical : k.Canonical)
    (policy : Policy) {compute : Action (Except ε k.Value)} {expected : ν → Except ε k.Value}
    (agrees : ∀ n v, k.valueIn (stores n) = some v ↔ expected n = .ok v)
    (computes : compute.Meets (amidst stores) (fun _ o => ∃ n, o = expected n) ()) :
    (g.resolve k.codec k policy compute).Meets (amidst stores)
      (fun _ o => ∃ n, o = expected n) () :=
  Gateway.meets_resolve (grants_key canonical agrees) policy fun _ => computes

omit [Nonempty ν] in
theorem toOption_eq_some {ε α : Type} {o : Except ε α} {v : α} :
    o.toOption = some v ↔ o = .ok v := by
  cases o <;> simp [Except.toOption]

/-- What is made of one listing is made of that of one of the stores. -/
private theorem meets_listing {α : Type} {call : Store.Call}
    {pageOf : Except Store.Fault call.Answer → α} :
    Dialogue.Meets (amidst stores) (fun _ o => ∃ n, o = pageOf (stores n call)) ()
      (do return pageOf (← Action.store call) : Action α) := by
  apply (meets_store _).bind
  rintro _ _ ⟨n, rfl⟩
  exact ⟨n, rfl⟩

private theorem meets_likedBy (viewer : Viewer) (videos : List Video) :
    (Service.likedBy viewer videos).Meets (amidst stores)
      (fun _ o => ∃ n, o = (stores n).likedBy viewer videos) () := by
  have ⟨n⟩ := ‹Nonempty ν›
  unfold Service.likedBy FixedStore.likedBy
  cases viewer.accountId? with
  | none => exact ⟨n, rfl⟩
  | some account =>
    by_cases empty : videos.isEmpty
    · simp only [empty, ↓reduceIte]
      exact ⟨n, rfl⟩
    · simp only [empty]
      exact meets_store _

private theorem meets_enrich {γ : Type} (page : Except Store.Fault (Page Video γ)) (viewer : Viewer)
    (encode : γ → String) : (Service.enrich page viewer encode).Meets (amidst stores)
      (fun _ o => ∃ n, o = (stores n).enriched page viewer encode) () := by
  cases page with
  | error fault => exact ‹Nonempty ν›.elim fun n => ⟨n, rfl⟩
  | ok page =>
    apply (meets_likedBy viewer page.items).bind
    rintro _ liked ⟨n, told⟩
    simp only [FixedStore.enriched]
    cases liked with
    | ok ids => exact ⟨n, by rw [← told]⟩
    | error fault => exact ⟨n, by rw [← told]⟩

/-- A page of one store may be marked with the likes of another. -/
theorem meets_enriched {γ : Type} {select : Action (Except Store.Fault (Page Video γ))}
    {expected : ν → Except Store.Fault (Page Video γ)}
    (selects : select.Meets (amidst stores) (fun _ o => ∃ n, o = expected n) ()) (viewer : Viewer)
    (encode : γ → String) :
    (select >>= (Service.enrich · viewer encode)).Meets (amidst stores)
      (fun _ o => ∃ n k, o = (stores k).enriched (expected n) viewer encode) () := by
  apply selects.bind
  rintro ⟨⟩ _ ⟨n, rfl⟩
  exact (meets_enrich _ viewer encode).imp fun _ _ found => ⟨n, found⟩

omit [Nonempty ν] in
/-- A position from a token lies where keys can name it. -/
theorem canonical_of_position {token : Option String} {cursor : Option LatestCursor}
    (read : Service.position LatestCursor.decode token = .ok cursor) :
    ∀ c ∈ cursor, c.Canonical := by
  unfold Service.position at read
  split at read
  · next text _ =>
    rintro c rfl
    cases decoded : LatestCursor.decode text with
    | error fault => rw [decoded] at read; cases read
    | ok found =>
      rw [decoded] at read
      obtain rfl := Except.ok.inj read
      exact LatestCursor.canonical_of_decode decoded
  · cases read
    exact nofun

def FixedStore.likedAs (store likes : FixedStore) : FixedStore
  | .likedAmong account videos => likes (.likedAmong account videos)
  | call => store call

private theorem FixedStore.likedAs_self (store : FixedStore) : store.likedAs store = store := by
  funext call
  cases call <;> rfl

variable (feeds : Feed.Service) (videos : Video.Service)

private theorem meets_latest (limit : Option UInt32) {cursor : Option LatestCursor}
    (canonical : ∀ c ∈ cursor, c.Canonical) (viewer : Viewer) :
    (feeds.latest limit cursor viewer).Meets (amidst stores) (fun _ o => ∃ n k, o =
      (stores k).enriched ((stores n).latestPage ⟨feeds.limits.clamp limit, cursor⟩) viewer
        LatestCursor.encode) () := by
  have selected : (Service.selectLatest ⟨feeds.limits.clamp limit, cursor⟩).Meets
      (amidst stores) _ () := meets_listing
  unfold Service.latest
  by_cases anonymous : viewer.isAnonymous
  · simp only [anonymous, ↓reduceIte]
    exact meets_enriched (meets_resolution (k := .latest (feeds.limits.clamp limit) cursor)
      canonical feeds.policy (fun _ _ => toOption_eq_some) selected) viewer _
  · simp only [anonymous]
    exact meets_enriched selected viewer _

private theorem meets_popular
    (limit : Option UInt32) (cursor : Option PopularCursor) (viewer : Viewer) :
    (feeds.popular limit cursor viewer).Meets (amidst stores) (fun _ o => ∃ n k, o =
      (stores k).enriched ((stores n).popularPage ⟨feeds.limits.clamp limit, cursor⟩) viewer
        PopularCursor.encode) () :=
  meets_enriched (meets_resolution (k := .popular (feeds.limits.clamp limit) cursor) trivial
    feeds.policy (fun _ _ => toOption_eq_some) meets_listing) viewer _

private theorem meets_following (limit : Option UInt32) {cursor : Option LatestCursor}
    (canonical : ∀ c ∈ cursor, c.Canonical) (viewer : Viewer) :
    (feeds.following limit cursor viewer).Meets (amidst stores) (fun _ o => ∃ n k, o =
      (stores k).enriched ((stores n).followedPage viewer ⟨feeds.limits.clamp limit, cursor⟩)
        viewer LatestCursor.encode) () := by
  have selected : (Service.selectLatest ⟨feeds.limits.clamp limit, cursor⟩).Meets
      (amidst stores) _ () := meets_listing
  unfold Service.following FixedStore.followedPage
  cases viewer.accountId? with
  | none => exact meets_enriched selected viewer _
  | some follower =>
    exact meets_enriched (meets_resolution
      (k := .following follower (feeds.limits.clamp limit) cursor) canonical feeds.policy
      (fun _ _ => toOption_eq_some) meets_listing) viewer _

theorem meets_find (id : Int64) :
    (Video.Service.find id).Meets (amidst stores) (fun _ o => ∃ n, o = (stores n).find id) () := by
  apply (meets_store (.find id)).bind
  rintro _ found ⟨n, told⟩
  rcases found with fault | _ | v
  all_goals exact ⟨n, by rw [FixedStore.find, ← told]⟩

theorem meets_detail (id : Int64) :
    (videos.detail id).Meets (amidst stores) (fun _ o => ∃ n, o = (stores n).find id) () := by
  refine meets_resolution (k := .video id) trivial videos.policy (fun n v => ?_) (meets_find id)
  simp only [Key.valueIn, FixedStore.find]
  cases stores n (.find id) with
  | error fault => simp
  | ok found => cases found <;> simp

private theorem meets_pageFromToken
    (feed : Feed.Kind) (limit : Option UInt32) (token : Option String)
    (viewer : Viewer) : (feeds.pageFromToken feed limit token viewer).Meets (amidst stores)
      (fun _ o => ∃ n k, o = ((stores n).likedAs (stores k)).pageFromToken feeds.limits feed limit
        token viewer) () := by
  have ⟨n⟩ := ‹Nonempty ν›
  cases feed with
  | latest =>
    simp only [Service.pageFromToken, Service.latestFromToken, FixedStore.pageFromToken]
    cases read : Service.position LatestCursor.decode token with
    | error failure => exact ⟨n, n, rfl⟩
    | ok cursor => exact meets_latest feeds limit (canonical_of_position read) viewer
  | popular =>
    simp only [Service.pageFromToken, Service.popularFromToken, FixedStore.pageFromToken]
    cases Service.position PopularCursor.decode token with
    | error failure => exact ⟨n, n, rfl⟩
    | ok cursor => exact meets_popular feeds limit cursor viewer
  | following =>
    simp only [Service.pageFromToken, Service.followingFromToken, FixedStore.pageFromToken]
    cases read : Service.position LatestCursor.decode token with
    | error failure => exact ⟨n, n, rfl⟩
    | ok cursor => exact meets_following feeds limit (canonical_of_position read) viewer

/-- A reading that is answered honestly returns what it would find in one of the stores, with the
likes of one of them. -/
theorem meets_reading (r : Reading) : (r.action feeds videos).Meets (amidst stores)
    (fun _ o => ∃ n k, o = ((stores n).likedAs (stores k)).result feeds.limits r) () := by
  cases r with
  | page feed limit token viewer => exact meets_pageFromToken feeds feed limit token viewer
  | detail id =>
    exact (meets_detail videos id).imp fun _ _ ⟨n, found⟩ => ⟨n, n, found⟩

end

variable {store : FixedStore} (feeds : Feed.Service) (videos : Video.Service)

/-- Of a single store, a reading returns what it would find there. -/
theorem meets_reading_fixed (r : Reading) : (r.action feeds videos).Meets (honestly store)
    (fun _ o => o = store.result feeds.limits r) () :=
  meets_honestly ((meets_reading feeds videos r).imp fun _ _ ⟨_, _, found⟩ => by
    rw [found, FixedStore.likedAs_self])

abbrev Stored := List (String × Bytes)

/-- The answers of a store that does not change and of an unreliable but honest cache, with what
has been stored before and after. A value counts as stored as soon as its call takes effect,
whatever comes back from the call. -/
inductive Honest (store : FixedStore) (stored : Stored) :
    (q : Effect) → q.Answer → Stored → Prop where
  | lost (limit : Span) (call : Cache.Call) (reply : Reply call.Answer)
      (nothing : ∀ a, reply ≠ .answered a) : Honest store stored (.cache limit call) reply stored
  | miss (limit : Span) (name : String) :
      Honest store stored (.cache limit (.get name)) (.answered none) stored
  | unreadable (limit : Span) (name : String) (bs : Bytes)
      (rejected : ∀ k : Key, k.name = name → ∀ v, k.codec.decode bs ≠ .ok v) :
      Honest store stored (.cache limit (.get name)) (.answered (some bs)) stored
  | found (limit : Span) (name : String) (bs : Bytes) (known : (name, bs) ∈ stored) :
      Honest store stored (.cache limit (.get name)) (.answered (some bs)) stored
  | set (limit : Span) (name : String) (bs : Bytes) (ttl : Span) (reply : Reply Unit) :
      Honest store stored (.cache limit (.set name bs ttl)) reply ((name, bs) :: stored)
  | delete (limit : Span) (name : String) :
      Honest store stored (.cache limit (.delete name)) (.answered ()) stored
  | setIfAbsent (limit : Span) (name token : String) (ttl : Span) (given : Bool) :
      Honest store stored (.cache limit (.setIfAbsent name token ttl)) (.answered given) stored
  | deleteIfEquals (limit : Span) (name token : String) (given : Bool) :
      Honest store stored (.cache limit (.deleteIfEquals name token)) (.answered given) stored
  | store (call : Store.Call) : Honest store stored (.store call) (store call) stored
  | other (q : Effect) (a : q.Answer) (own : ∀ limit call, q ≠ .cache limit call)
      (apart : ∀ call, q ≠ .store call) : Honest store stored q a stored

/-- Callers around a store that does not change and an honest cache. -/
def honestly.surroundings (ι : Type) (store : FixedStore) :
    Surroundings ι Effect Effect.Answer Stored where
  answers stored _ q a stored' := Honest store stored q a stored'
  drifts _ _ := False

/-- Only genuine bytes have been stored. -/
def AllGenuine (store : FixedStore) (stored : Stored) : Prop :=
  ∀ name bs, (name, bs) ∈ stored → Genuine store name bs

def GenuineAmong {ν : Type} (stores : ν → FixedStore) (stored : Stored) : Prop :=
  ∀ name bs, (name, bs) ∈ stored → ∃ n, Genuine (stores n) name bs

theorem heard_amidst {ν : Type} {stores : ν → FixedStore} {stored stored' : Stored} {n : ν}
    {q : Effect} {a : q.Answer} (genuine : GenuineAmong stores stored)
    (may : ∃ n, MayAsk (stores n) q) (honest : Honest (stores n) stored q a stored') :
    (∃ n, Heard (stores n) q a) ∧ GenuineAmong stores stored' := by
  cases honest with
  | lost limit call reply nothing =>
    refine ⟨⟨n, ?_⟩, genuine⟩
    cases call with
    | get name =>
      cases reply with
      | answered a => exact absurd rfl (nothing a)
      | failed => trivial
      | silent => trivial
    | _ => trivial
  | unreadable limit name bs rejected => exact ⟨⟨n, genuine_of_unreadable rejected⟩, genuine⟩
  | found limit name bs known => exact ⟨genuine name bs known, genuine⟩
  | set limit name bs ttl reply =>
    refine ⟨⟨n, trivial⟩, ?_⟩
    intro _ _ member
    rcases List.mem_cons.mp member with same | known
    · obtain ⟨rfl, rfl⟩ := Prod.mk.inj same
      exact may
    · exact genuine _ _ known
  | store call => exact ⟨⟨n, rfl⟩, genuine⟩
  | other q a own apart =>
    refine ⟨⟨n, ?_⟩, genuine⟩
    cases q with
    | cache limit call => exact absurd rfl (own limit call)
    | store call => exact absurd rfl (apart call)
    | _ => trivial
  | _ => exact ⟨⟨n, trivial⟩, genuine⟩

private theorem heard_of_honest {stored stored' : Stored} {q : Effect} {a : q.Answer}
    (genuine : AllGenuine store stored) (may : MayAsk store q)
    (honest : Honest store stored q a stored') :
    Heard store q a ∧ AllGenuine store stored' := by
  have among : GenuineAmong (fun _ : Unit => store) stored :=
    fun name bs known => ⟨(), genuine name bs known⟩
  obtain ⟨⟨_, heard⟩, kept⟩ := heard_amidst (n := ()) among ⟨(), may⟩ honest
  exact ⟨heard, fun name bs known => (kept name bs known).elim fun _ found => found⟩

/-- Honest answers are heard, and what is stored stays genuine. -/
theorem keeps_honestly {ι : Type} : Pool.Keeps (honestly.surroundings ι store) (honestly store)
    (fun _ _ => ()) (AllGenuine store) where
  answer genuine may honest :=
    have ⟨heard, kept⟩ := heard_of_honest genuine may honest
    ⟨heard, kept, rfl, fun _ _ => rfl⟩
  drift _ moved := moved.elim

/-- The answers of a store that does not change and of the backend that keeps nothing. -/
def uncachedAnswer (store : FixedStore) (token : String) : (q : Effect) → q.Answer
  | .cache _ call => .answered (Backend.disabled.perform 0 call).1
  | .store call => store call
  | .probe => .ok ()
  | .sleep _ => ()
  | .lockToken => token
  | .requestId => token
  | .hold _ => ()
  | .unhold => ()
  | .count _ => ()
  | .log _ => ()
  | .note _ => ()

/-- What a reading returns when nothing is cached. -/
def Reading.uncached (feeds : Feed.Service) (videos : Video.Service) (store : FixedStore)
    (token : String) (r : Reading) : r.Outcome :=
  ((r.action feeds videos).run (fun (_ : Unit) q => (uncachedAnswer store token q, ())) ()).1

private theorem heard_uncached (token : String) (q : Effect) :
    Heard store q (uncachedAnswer store token q) := by
  cases q with
  | cache limit call => cases call <;> trivial
  | store call => rfl
  | _ => trivial

private theorem uncached_eq_result (token : String) (r : Reading) :
    r.uncached feeds videos store token = store.result feeds.limits r := by
  have meets : (r.action feeds videos).Meets (honestly store) _ () :=
    meets_reading_fixed feeds videos r
  obtain ⟨_, same, _⟩ := meets.run (fun (_ : Unit) q => (uncachedAnswer store token q, ()))
    (fun _ _ => True) (fun _ _ q _ _ => ⟨heard_uncached token q, trivial⟩) (s := ()) trivial
  exact same

def Reading.begin {ι : Type} (readings : ι → Reading) :
    Pool ι Effect Effect.Answer (fun i => (readings i).Outcome) Stored :=
  ⟨[], fun i => (readings i).action feeds videos⟩

private theorem sound_begin {ι : Type} (readings : ι → Reading) :
    (Reading.begin feeds videos readings).Sound (honestly store) (fun _ _ => ())
      (AllGenuine store) (fun i _ o => o = store.result feeds.limits (readings i)) :=
  ⟨nofun, fun i => meets_reading_fixed feeds videos (readings i)⟩

/-- However readings take turns and whatever an honest cache does to them, a reading that comes to
its end returns what it would return without a cache. -/
theorem reading_eq_uncached {ι : Type} [DecidableEq ι] (readings : ι → Reading) (token : String)
    {p : Pool ι Effect Effect.Answer (fun i => (readings i).Outcome) Stored}
    (reached : Pool.Reaches (honestly.surroundings ι store) (Reading.begin feeds videos readings) p)
    {i : ι} {o : (readings i).Outcome} (ended : p.callers i = .done o) :
    o = (readings i).uncached feeds videos store token := by
  rw [uncached_eq_result]
  exact ((sound_begin feeds videos readings).reaches keeps_honestly reached).outcome ended

/-- The answers of a store that does not change and of a cache that forgets nothing. -/
def rememberingAnswer (store : FixedStore) (stored : Stored) : (q : Effect) → q.Answer × Stored
  | .cache _ (.get name) => (.answered (stored.lookup name), stored)
  | .cache _ (.set name bs _) => (.answered (), (name, bs) :: stored)
  | .cache _ call => (.answered call.disabledAnswer, stored)
  | q => (uncachedAnswer store "" q, stored)

theorem honest_remembering (stored : Stored) (q : Effect) :
    Honest store stored q (rememberingAnswer store stored q).1
      (rememberingAnswer store stored q).2 := by
  cases q with
  | cache limit call =>
    cases call with
    | get name =>
      simp only [rememberingAnswer]
      cases found : stored.lookup name with
      | none => exact .miss limit name
      | some bs => exact .found limit name bs (Cache.Memory.mem_of_lookup found)
    | set name bs ttl => exact .set limit name bs ttl _
    | delete name => exact .delete limit name
    | setIfAbsent name token ttl => exact .setIfAbsent limit name token ttl _
    | deleteIfEquals name token => exact .deleteIfEquals limit name token _
  | store call => exact .store call
  | _ => exact .other _ _ nofun nofun

/-- The first of two readings of one video fills the entry; the second finds the entry and returns
the video. -/
theorem second_detail_eq_uncached :
    let video : Video := ⟨1, 7, "ada", "dawn", none, "/p/1", "/c/1", 3, 3, .utc 0⟩
    let store := FixedStore.ofMemory ⟨[video], [], []⟩
    let settings := Settings.standard
    let gateway := settings.gateway "memory"
    let feeds : Feed.Service := ⟨gateway, settings.listPolicy, .standard⟩
    let videos : Video.Service := ⟨gateway, settings.detailPolicy⟩
    let begun := Reading.begin feeds videos fun _ : Bool => .detail 1
    let filled := begun.settle (rememberingAnswer store) false
    let found := filled.play (fun s _ => rememberingAnswer store s) true
    let ended := found.settle (rememberingAnswer store) true
    Pool.Reaches (honestly.surroundings Bool store) begun ended ∧
      filled.outcome? false = some (.ok video) ∧
      filled.shared.map (fun kept => (kept.1, Video.codec.decode kept.2)) =
        [((Key.video 1).name, .ok video)] ∧
      filled.question? true = some (.cache gateway.opTimeout (.get (Key.video 1).name)) ∧
      found.question? true = some (.count .hit) ∧
      ended.callers true = .done (.ok video) ∧ ended.shared = filled.shared ∧
      .ok video = Reading.uncached feeds videos store "" (.detail 1) := by
  intro video store settings gateway feeds videos begun filled found ended
  have honest (i : Bool) (stored : Stored) (q : Effect) :
      (honestly.surroundings Bool store).answers stored i q (rememberingAnswer store stored q).1
        (rememberingAnswer store stored q).2 :=
    honest_remembering stored q
  have first : Pool.Reaches (honestly.surroundings Bool store) begun filled :=
    Pool.reaches_settle (honest false) begun
  have hit : Pool.Reaches (honestly.surroundings Bool store) filled found :=
    Pool.reaches_play (honest true filled.shared)
  have second : Pool.Reaches (honestly.surroundings Bool store) found ended :=
    Pool.reaches_settle (honest true) found
  have reached := (first.trans hit).trans second
  have told : filled.outcome? false = some (.ok video) ∧
      filled.shared.map (fun kept => (kept.1, Video.codec.decode kept.2)) =
        [((Key.video 1).name, .ok video)] ∧
      filled.question? true = some (.cache gateway.opTimeout (.get (Key.video 1).name)) ∧
      found.question? true = some (.count .hit) ∧
      ended.outcome? true = some (.ok video) ∧ ended.shared = filled.shared := by
    decide +kernel
  obtain ⟨filling, kept, looks, counts, returned, same⟩ := told
  have last := Pool.outcome?_eq_some.mp returned
  exact ⟨reached, filling, kept, looks, counts, last, same,
    reading_eq_uncached feeds videos (fun _ => .detail 1) "" reached last⟩

/-- Whether a reading can return an outcome while others run and the cache is honest. -/
def Reading.Returns (store : FixedStore) (r : Reading) (o : r.Outcome) : Prop :=
  ∃ (ι : Type) (_ : DecidableEq ι) (others : ι → Reading)
    (p : Pool (Option ι) Effect Effect.Answer (fun i => (i.elim r others).Outcome) Stored),
    Pool.Reaches (honestly.surroundings (Option ι) store)
      (Reading.begin feeds videos fun i => i.elim r others) p ∧ p.callers none = .done o

/-- A reading can always return, and only what it finds in the store. -/
theorem returns_iff {r : Reading} {o : r.Outcome} :
    r.Returns feeds videos store o ↔ o = store.result feeds.limits r := by
  constructor
  · rintro ⟨ι, _, others, p, reached, ended⟩
    exact ((sound_begin feeds videos _).reaches keeps_honestly reached).outcome ended
  · rintro rfl
    have honest (i : Option Empty) (stored : Stored) (q : Effect) :
        (honestly.surroundings (Option Empty) store).answers stored i q
          (rememberingAnswer store stored q).1 (rememberingAnswer store stored q).2 :=
      honest_remembering stored q
    obtain ⟨p, reached, _, ended, _⟩ := Pool.reaches_alone (honest none)
      (Reading.begin feeds videos fun i => i.elim r Empty.elim)
    refine ⟨Empty, inferInstance, Empty.elim, p, reached, ?_⟩
    have found := ((sound_begin feeds videos _).reaches keeps_honestly reached).outcome ended
    rw [ended]
    exact congrArg _ found

end ClipFeed
