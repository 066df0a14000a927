import ClipFeed.Proofs.Cache.Entry
import ClipFeed.Proofs.Cache.Gateway
import ClipFeed.Proofs.Dialogue.Pool
import ClipFeed.Store.Memory
/-!
Readings: the calls that only read, with what each of them returns when a store that does not change
is asked directly.
-/

namespace ClipFeed

open Feed

namespace Feed

inductive Kind where
  | latest
  | popular
  | following
  deriving DecidableEq, Repr

def Service.pageFromToken (s : Service) : Kind → (limit : Option UInt32) →
    (token : Option String) → Viewer → Action (Except Failure Response)
  | .latest => s.latestFromToken
  | .popular => s.popularFromToken
  | .following => s.followingFromToken

end Feed

/-- A call that reads a page of a feed or a single video. -/
inductive Reading where
  | page (feed : Feed.Kind) (limit : Option UInt32) (token : Option String) (viewer : Viewer)
  | detail (id : Int64)
  deriving DecidableEq, Repr

namespace Reading

@[reducible] def Outcome : Reading → Type
  | .page .. => Except Feed.Failure Feed.Response
  | .detail _ => Except Video.Failure Video

def action (feeds : Feed.Service) (videos : Video.Service) : (r : Reading) → Action r.Outcome
  | .page feed limit token viewer => feeds.pageFromToken feed limit token viewer
  | .detail id => videos.detail id

end Reading

namespace FixedStore

/-- The answers of a store inside the process as long as nothing changes it. -/
def ofMemory (m : Store.Memory) : FixedStore :=
  fun call => (m.perform call).1

variable (store : FixedStore)

def likedBy (viewer : Viewer) (videos : List Video) : Except Store.Fault (List Int64) :=
  match viewer.accountId? with
  | some account =>
    if videos.isEmpty then .ok [] else store (.likedAmong account (videos.map (·.id)))
  | none => .ok []

def enriched {γ : Type} (page : Except Store.Fault (Page Video γ)) (viewer : Viewer)
    (encode : γ → String) : Except Failure Response :=
  match page with
  | .error fault => .error (.store fault)
  | .ok page =>
    match store.likedBy viewer page.items with
    | .ok liked => .ok (.ofPage page liked encode)
    | .error fault => .error (.store fault)

def latestPage (request : PageRequest LatestCursor) : Except Store.Fault LatestPage :=
  (store (.listLatest request)).map (Feed.latestPage · request.limit)

def popularPage (request : PageRequest PopularCursor) : Except Store.Fault PopularPage :=
  (store (.listPopular request)).map (Feed.popularPage · request.limit)

def followingPage (follower : Int64) (request : PageRequest LatestCursor) :
    Except Store.Fault LatestPage :=
  (store (.listFollowing follower request)).map (Feed.latestPage · request.limit)

/-- The page of the following feed. An anonymous viewer gets the whole feed. -/
def followedPage (viewer : Viewer) (request : PageRequest LatestCursor) :
    Except Store.Fault LatestPage :=
  match viewer.accountId? with
  | none => store.latestPage request
  | some follower => store.followingPage follower request

def find (id : Int64) : Except Video.Failure Video :=
  match store (.find id) with
  | .ok (some v) => .ok v
  | .ok none => .error .notFound
  | .error fault => .error (.ofStore fault)

/-- What a page of a feed looks like when the store alone is asked. -/
def pageFromToken (limits : Limits) : Feed.Kind → (limit : Option UInt32) →
    (token : Option String) → Viewer → Except Failure Response
  | .latest, limit, token, viewer => do
    let cursor ← Service.position LatestCursor.decode token
    store.enriched (store.latestPage ⟨limits.clamp limit, cursor⟩) viewer LatestCursor.encode
  | .popular, limit, token, viewer => do
    let cursor ← Service.position PopularCursor.decode token
    store.enriched (store.popularPage ⟨limits.clamp limit, cursor⟩) viewer PopularCursor.encode
  | .following, limit, token, viewer => do
    let cursor ← Service.position LatestCursor.decode token
    store.enriched (store.followedPage viewer ⟨limits.clamp limit, cursor⟩) viewer
      LatestCursor.encode

def result (limits : Limits) : (r : Reading) → r.Outcome
  | .page feed limit token viewer => store.pageFromToken limits feed limit token viewer
  | .detail id => store.find id

end FixedStore

end ClipFeed
