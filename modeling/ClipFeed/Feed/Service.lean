import ClipFeed.Cache.Gateway
import ClipFeed.Feed.Failure
import ClipFeed.Feed.Limits
import ClipFeed.Feed.Response
import ClipFeed.Viewer
/-!
The three feeds. Only the page of videos goes through the cache; whether the viewer likes them is
asked for each request, so that a shared page carries nobody's likes.
-/

namespace ClipFeed.Feed

structure Service where
  gateway : Cache.Gateway
  policy : Cache.Policy
  limits : Limits
  deriving DecidableEq, Repr

def LatestPage.codec : Cache.Codec LatestPage :=
  .ofShape LatestPage.shape LatestPage.toVal LatestPage.ofVal

def PopularPage.codec : Cache.Codec PopularPage :=
  .ofShape PopularPage.shape PopularPage.toVal PopularPage.ofVal

namespace Service

def selectLatest (request : PageRequest LatestCursor) : Action (Except Store.Fault LatestPage) := do
  let rows ← Action.store (.listLatest request)
  return rows.map (latestPage · request.limit)

def selectPopular (request : PageRequest PopularCursor) :
    Action (Except Store.Fault PopularPage) := do
  let rows ← Action.store (.listPopular request)
  return rows.map (popularPage · request.limit)

def selectFollowing (follower : Int64) (request : PageRequest LatestCursor) :
    Action (Except Store.Fault LatestPage) := do
  let rows ← Action.store (.listFollowing follower request)
  return rows.map (latestPage · request.limit)

/-- Those of the videos that the viewer likes, asked for at most once. -/
def likedBy (viewer : Viewer) (videos : List Video) : Action (Except Store.Fault (List Int64)) :=
  match viewer.accountId? with
  | some account =>
    if videos.isEmpty then return .ok []
    else Action.store (.likedAmong account (videos.map (·.id)))
  | none => return .ok []

def enrich {γ : Type} (page : Except Store.Fault (Page Video γ)) (viewer : Viewer)
    (encode : γ → String) : Action (Except Failure Response) := do
  match page with
  | .error fault => return .error (.store fault)
  | .ok page =>
    match ← likedBy viewer page.items with
    | .ok liked => return .ok (.ofPage page liked encode)
    | .error fault => return .error (.store fault)

/-- Newest first. Pages are cached for anonymous viewers only. -/
def latest (s : Service) (limit : Option UInt32) (cursor : Option LatestCursor)
    (viewer : Viewer) : Action (Except Failure Response) := do
  let request := ⟨s.limits.clamp limit, cursor⟩
  let page ←
    if viewer.isAnonymous then
      s.gateway.resolve LatestPage.codec (.latest request.limit cursor) s.policy
        (selectLatest request)
    else selectLatest request
  enrich page viewer LatestCursor.encode

/-- Most liked first. Pages are cached for everybody. -/
def popular (s : Service) (limit : Option UInt32) (cursor : Option PopularCursor)
    (viewer : Viewer) : Action (Except Failure Response) := do
  let request := ⟨s.limits.clamp limit, cursor⟩
  let page ← s.gateway.resolve PopularPage.codec (.popular request.limit cursor) s.policy
    (selectPopular request)
  enrich page viewer PopularCursor.encode

/-- Videos of followed authors, newest first. An anonymous viewer follows nobody and gets the
whole feed, not cached. -/
def following (s : Service) (limit : Option UInt32) (cursor : Option LatestCursor)
    (viewer : Viewer) : Action (Except Failure Response) := do
  let request := ⟨s.limits.clamp limit, cursor⟩
  let page ← match viewer.accountId? with
    | none => selectLatest request
    | some follower =>
      s.gateway.resolve LatestPage.codec (.following follower request.limit cursor) s.policy
        (selectFollowing follower request)
  enrich page viewer LatestCursor.encode

/-- The position that an optional token names. No token and a blank one are the start. -/
def position {γ : Type} (decode : String → Except CursorFault (Option γ)) (token : Option String) :
    Except Failure (Option γ) :=
  match token.bind Text.trimmed? with
  | some token => (decode token).mapError .cursor
  | none => .ok none

def latestFromToken (s : Service) (limit : Option UInt32) (token : Option String)
    (viewer : Viewer) : Action (Except Failure Response) :=
  match position LatestCursor.decode token with
  | .ok cursor => s.latest limit cursor viewer
  | .error failure => return .error failure

def popularFromToken (s : Service) (limit : Option UInt32) (token : Option String)
    (viewer : Viewer) : Action (Except Failure Response) :=
  match position PopularCursor.decode token with
  | .ok cursor => s.popular limit cursor viewer
  | .error failure => return .error failure

def followingFromToken (s : Service) (limit : Option UInt32) (token : Option String)
    (viewer : Viewer) : Action (Except Failure Response) :=
  match position LatestCursor.decode token with
  | .ok cursor => s.following limit cursor viewer
  | .error failure => return .error failure

end Service

end ClipFeed.Feed
