import ClipFeed.Feed.Service
import ClipFeed.Proofs.Cache.Keeping
import ClipFeed.Proofs.Feed.Isolation
import ClipFeed.Proofs.Http.Feeds
/-!
The size of a page on its way. One size is asked of the store, is written into the key of the entry
and decides whether there is more; a page comes from such a listing or from such an entry, and
nothing but a fault of the store keeps it back.
-/

namespace ClipFeed

open Cache

def Cache.Key.limit? : Key → Option UInt32
  | .video _ => none
  | .latest limit _ => some limit
  | .popular limit _ => some limit
  | .following _ limit _ => some limit

namespace Feed

variable {γ : Type} {size : UInt32} {cursorOf : Video → γ} {xs : List Exchange}

def Sized (size : UInt32) : Effect → Prop
  | .store (.listLatest page) => page.limit = size
  | .store (.listPopular page) => page.limit = size
  | .store (.listFollowing _ page) => page.limit = size
  | .store (.likedAmong ..) => True
  | .store _ => False
  | .cache _ call => ∃ key : Key, key.limit? = some size ∧
    (call.key = key.name ∨ call.key = key.lockName)
  | _ => True

/-- How many rows an exchange asks the store to list, with what came back. -/
def listing? : Exchange → Option (UInt32 × Except Store.Fault (List Video))
  | ⟨.store (.listLatest page), rows⟩ => some (page.limit, rows)
  | ⟨.store (.listPopular page), rows⟩ => some (page.limit, rows)
  | ⟨.store (.listFollowing _ page), rows⟩ => some (page.limit, rows)
  | _ => none

/-- Whether an exchange shows the entry of a page of so many rows. -/
inductive ShowsEntry (size : UInt32) : Exchange → Prop where
  | shown {limit : Span} {key : Key} {bs : Text.Bytes} (sized : key.limit? = some size) :
      ShowsEntry size ⟨.cache limit (.get key.name), .answered (some bs)⟩

private theorem listing?_eq_some
    {x : Exchange} {n : UInt32} {rows : Except Store.Fault (List Video)}
    (lists : listing? x = some (n, rows)) : (∃ call, x.1 = .store call) ∧
      ∀ fault, rows = .error fault → ∃ call, x = ⟨.store call, .error fault⟩ := by
  unfold listing? at lists
  split at lists
  · obtain ⟨-, rfl⟩ := Prod.mk.inj (Option.some.inj lists)
    exact ⟨⟨_, rfl⟩, fun fault same => ⟨_, by rw [same]⟩⟩
  · obtain ⟨-, rfl⟩ := Prod.mk.inj (Option.some.inj lists)
    exact ⟨⟨_, rfl⟩, fun fault same => ⟨_, by rw [same]⟩⟩
  · obtain ⟨-, rfl⟩ := Prod.mk.inj (Option.some.inj lists)
    exact ⟨⟨_, rfl⟩, fun fault same => ⟨_, by rw [same]⟩⟩
  · cases lists

/-- An action that finds pages of so many rows, in the store or in an entry. -/
structure Source (size : UInt32) (cursorOf : Video → γ)
    (find : Action (Except Store.Fault (Page Video γ))) : Prop where
  asks : find.Asks (Sized size)
  listed : ∀ {xs page}, find.Ends xs page → ∀ x ∈ xs, ∀ n rows, listing? x = some (n, rows) →
    n = size ∧ page = rows.map (Page.ofRows · size cursorOf)
  found : ∀ {xs page}, find.Ends xs page → (∃ x ∈ xs, (listing? x).isSome) ∨
    (∃ x ∈ xs, ShowsEntry size x) ∧ ∃ p, page = .ok p

/-- A page that is made of one listing. -/
theorem source_of_listing (call : Store.Call) (sized : Sized size (.store call))
    {pageOf : Except Store.Fault call.Answer → Except Store.Fault (Page Video γ)}
    (lists : ∀ a, ∃ rows, listing? ⟨.store call, a⟩ = some (size, rows) ∧
      pageOf a = rows.map (Page.ofRows · size cursorOf)) :
    Source size cursorOf (do return pageOf (← Action.store call)) where
  asks := (Dialogue.asks_request sized).bind fun _ => Dialogue.asks_done _
  listed := by
    intro xs page ended x member n rows listed
    obtain ⟨a, rfl, rfl⟩ := Session.ends_listing ended
    obtain rfl := List.mem_singleton.mp member
    obtain ⟨other, told, made⟩ := lists a
    obtain ⟨rfl, rfl⟩ := Prod.mk.inj (Option.some.inj (told.symm.trans listed))
    exact ⟨rfl, made⟩
  found := by
    intro xs page ended
    obtain ⟨a, rfl, rfl⟩ := Session.ends_listing ended
    obtain ⟨rows, told, _⟩ := lists a
    exact .inl ⟨_, List.mem_singleton_self _, by rw [told]; rfl⟩

private theorem source_selectLatest (size : UInt32) (cursor : Option LatestCursor) :
    Source size (fun v => .afterRow v.createdAt v.id) (Service.selectLatest ⟨size, cursor⟩) :=
  source_of_listing (.listLatest ⟨size, cursor⟩) rfl fun a => ⟨a, rfl, rfl⟩

private theorem source_selectPopular (size : UInt32) (cursor : Option PopularCursor) :
    Source size (fun v => .afterRow v.likesCount v.id) (Service.selectPopular ⟨size, cursor⟩) :=
  source_of_listing (.listPopular ⟨size, cursor⟩) rfl fun a => ⟨a, rfl, rfl⟩

private theorem source_selectFollowing (size : UInt32) (follower : Int64)
    (cursor : Option LatestCursor) :
    Source size (fun v => .afterRow v.createdAt v.id)
      (Service.selectFollowing follower ⟨size, cursor⟩) :=
  source_of_listing (.listFollowing follower ⟨size, cursor⟩) rfl fun a => ⟨a, rfl, rfl⟩

/-- A resolution finds pages as its computation does, or in the entry. -/
theorem Source.resolve {find : Action (Except Store.Fault (Page Video γ))}
    (source : Source size cursorOf find) (g : Gateway)
    (codec : Codec (Page Video γ)) (key : Key) (sized : key.limit? = some size)
    (policy : Policy) : Source size cursorOf (g.resolve codec key policy find) where
  asks := by
    apply Gateway.asks_resolve _ _ _ g codec policy source.asks
    · intro q plain
      unfold Plain at plain
      split at plain
      · exact ⟨key, sized, .inl plain⟩
      · trivial
      · trivial
      · trivial
      · cases plain
    · intro q locking
      unfold Locking at locking
      split at locking
      · exact ⟨key, sized, .inr locking⟩
      · exact ⟨key, sized, .inr locking⟩
      · trivial
      · trivial
      · trivial
      · cases locking
    · intro limit bs ttl
      exact ⟨key, sized, .inl rfl⟩
  listed := by
    intro xs page ended x member n rows lists
    obtain ⟨a, rfl, own, ran, course⟩ := Gateway.exists_account ended
    obtain ⟨⟨call, asked⟩, -⟩ := listing?_eq_some lists
    rcases a.mem_whole_iff.mp member with mine | ⟨during, r, computed, inside⟩
    · have alone := own x mine
      rw [asked] at alone
      cases alone
    · rw [computed] at course
      obtain ⟨rfl, -⟩ := course.computed
      exact source.listed (ran during page computed) x inside n rows lists
  found := by
    intro xs page ended
    rcases Gateway.found_or_computed ended with
      ⟨limit, bs, p, shown, _, rfl⟩ | ⟨during, ran, within⟩
    · exact .inr ⟨⟨_, shown, .shown sized⟩, p, rfl⟩
    · rcases source.found ran with ⟨x, inside, lists⟩ | ⟨⟨x, inside, shows⟩, found⟩
      · exact .inl ⟨x, within inside, lists⟩
      · exact .inr ⟨⟨x, within inside, shows⟩, found⟩

/-- What comes of a request for a page of so many rows, by what was told on the way. -/
inductive Answers (size : UInt32) (xs : List Exchange) : Except Failure Response → Prop where
  | page {response : Response}
      (told : (∃ x ∈ xs, (listing? x).isSome) ∨ ∃ x ∈ xs, ShowsEntry size x)
      (more : ∀ x ∈ xs, ∀ n rows, listing? x = some (n, rows) →
        n = size ∧ ∃ videos, rows = .ok videos ∧
          response.hasMore = decide (videos.length = size.toNat)) :
      Answers size xs (.ok response)
  | failed {call : Store.Call} {fault : Store.Fault}
      (told : (⟨.store call, .error fault⟩ : Exchange) ∈ xs) :
      Answers size xs (.error (.store fault))

private theorem hasMore_ofRows {rows : List Video} (positive : 1 ≤ size) :
    (Page.ofRows rows size cursorOf).hasMore = decide (rows.length = size.toNat) := by
  have nonzero : 1 ≤ size.toNat := UInt32.le_iff_toNat_le.mp positive
  cases rows with
  | nil =>
    rw [List.length_nil, decide_eq_false (by omega)]
    rfl
  | cons v more => rfl

/-- Likes are asked for at most once, and a fault is told by the store. -/
theorem of_ends_likedBy {viewer : Viewer} {videos : List Video}
    {liked : Except Store.Fault (List Int64)}
    (ended : (Service.likedBy viewer videos).Ends xs liked) :
    (∀ x ∈ xs, listing? x = none) ∧ ∀ fault, liked = .error fault →
      ∃ call, (⟨.store call, .error fault⟩ : Exchange) ∈ xs := by
  unfold Service.likedBy at ended
  split at ended
  · split at ended
    · obtain ⟨rfl, rfl⟩ := Dialogue.ends_done_iff.mp ended
      exact ⟨fun _ none => absurd none List.not_mem_nil, nofun⟩
    · obtain rfl := Dialogue.ends_request_iff.mp ended
      constructor
      · intro x member
        obtain rfl := List.mem_singleton.mp member
        rfl
      · rintro fault rfl
        exact ⟨_, List.mem_singleton_self _⟩
  · obtain ⟨rfl, rfl⟩ := Dialogue.ends_done_iff.mp ended
    exact ⟨fun _ none => absurd none List.not_mem_nil, nofun⟩

/-- What is found is shown with likes, or the store fails. -/
theorem Source.answers {find : Action (Except Store.Fault (Page Video γ))}
    (source : Source size cursorOf find) (positive : 1 ≤ size) {viewer : Viewer}
    {encode : γ → String} {o : Except Failure Response}
    (ended : (find >>= (Service.enrich · viewer encode)).Ends xs o) : Answers size xs o := by
  obtain ⟨ys, page, zs, first, second, rfl⟩ := ended.of_bind
  cases page with
  | error fault =>
    obtain ⟨rfl, rfl⟩ := Dialogue.ends_done_iff.mp second
    rcases source.found first with ⟨x, member, lists⟩ | ⟨-, p, impossible⟩
    · obtain ⟨⟨n, rows⟩, lists⟩ := Option.isSome_iff_exists.mp lists
      obtain ⟨-, made⟩ := source.listed first x member n rows lists
      cases rows with
      | ok videos => cases made
      | error other =>
        obtain rfl := Except.error.inj made
        obtain ⟨call, rfl⟩ := (listing?_eq_some lists).2 fault rfl
        exact .failed (List.mem_append_left _ member)
    · cases impossible
  | ok page =>
    obtain ⟨likes, liked, rest, asked, told, rfl⟩ := second.of_bind
    obtain ⟨unlisted, faults⟩ := of_ends_likedBy asked
    cases liked with
    | error fault =>
      obtain ⟨rfl, rfl⟩ := Dialogue.ends_done_iff.mp told
      obtain ⟨call, member⟩ := faults fault rfl
      exact .failed (List.mem_append_right _ (List.mem_append_left _ member))
    | ok ids =>
      obtain ⟨rfl, rfl⟩ := Dialogue.ends_done_iff.mp told
      apply Answers.page
      · rcases source.found first with ⟨x, member, lists⟩ | ⟨⟨x, member, shows⟩, -⟩
        · exact .inl ⟨x, List.mem_append_left _ member, lists⟩
        · exact .inr ⟨x, List.mem_append_left _ member, shows⟩
      · intro x member n rows lists
        have early : x ∈ ys := by
          rcases List.mem_append.mp member with early | late
          · exact early
          · rw [List.append_nil] at late
            rw [unlisted x late] at lists
            cases lists
        obtain ⟨rfl, made⟩ := source.listed first x early n rows lists
        cases rows with
        | error fault => cases made
        | ok videos =>
          obtain rfl := Except.ok.inj made
          exact ⟨rfl, videos, rfl, hasMore_ofRows positive⟩

namespace Service

variable (s : Service) (limit : Option UInt32)

/-- A page of a feed is found under one size and shown with likes. -/
theorem page_sized (feed : Kind) (cursor : Option feed.Cursor) (viewer : Viewer) :
    ∃ (cursorOf : Video → feed.Cursor) (find : Action (Except Store.Fault (Page Video feed.Cursor)))
      (encode : feed.Cursor → String), Source (s.limits.clamp limit) cursorOf find ∧
      s.page feed limit cursor viewer = find >>= (enrich · viewer encode) := by
  cases feed with
  | latest =>
    have listed := source_selectLatest (s.limits.clamp limit) cursor
    cases viewer with
    | anonymous =>
      have kept := listed.resolve s.gateway LatestPage.codec
        (.latest _ cursor) rfl s.policy
      exact ⟨_, _, _, kept, rfl⟩
    | account id => exact ⟨_, _, _, listed, rfl⟩
  | popular =>
    have listed := source_selectPopular (s.limits.clamp limit) cursor
    have kept := listed.resolve s.gateway PopularPage.codec
      (.popular _ cursor) rfl s.policy
    exact ⟨_, _, _, kept, rfl⟩
  | following =>
    cases viewer with
    | anonymous => exact ⟨_, _, _, source_selectLatest _ cursor, rfl⟩
    | account id =>
      have listed := source_selectFollowing (s.limits.clamp limit) id cursor
      have kept := listed.resolve s.gateway LatestPage.codec
        (.following id _ cursor) rfl s.policy
      exact ⟨_, _, _, kept, rfl⟩

/-- A request for a page asks for one size only, and its answer is told on the way. -/
theorem asks_page (feed : Kind) (cursor : Option feed.Cursor) (viewer : Viewer) :
    (s.page feed limit cursor viewer).Asks (Sized (s.limits.clamp limit)) := by
  obtain ⟨cursorOf, find, encode, source, same⟩ := s.page_sized limit feed cursor viewer
  rw [same]
  exact source.asks.bind fun page => Session.asks_enrich (fun _ _ => trivial) page viewer encode

theorem answers_page {limit : Option UInt32} (positive : 1 ≤ s.limits.clamp limit) {feed : Kind}
    {cursor : Option feed.Cursor} {viewer : Viewer} {o : Except Failure Response}
    (ended : (s.page feed limit cursor viewer).Ends xs o) :
    Answers (s.limits.clamp limit) xs o := by
  obtain ⟨cursorOf, find, encode, source, same⟩ := s.page_sized limit feed cursor viewer
  rw [same] at ended
  exact source.answers positive ended

end Service

end Feed

end ClipFeed
