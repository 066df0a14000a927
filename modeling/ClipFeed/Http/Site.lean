import ClipFeed.Feed.Service
import ClipFeed.Http.Caller
import ClipFeed.Http.FeedQuery
import ClipFeed.Http.Route
import ClipFeed.Http.Submission
import ClipFeed.Video.Service
/-!
The replies of the service to requests. A request is checked in a fixed order, the caller first,
and nothing is asked of the store or the cache before all of it has been read.
-/

namespace ClipFeed.Http

structure Site where
  feeds : Feed.Service
  videos : Video.Service
  deriving DecidableEq, Repr

namespace Site

def ofPage : Except Feed.Failure Feed.Response → Reply
  | .ok response => .json 200 response.toJson
  | .error failure => .refused (.ofFeed failure)

/-- A video, unless its creation time has no written form. -/
def ofVideo (status failing : Nat) : Except Video.Failure Video → Reply
  | .ok v =>
    match v.toJson with
    | .ok value => .json status value
    | .error fault => .plain failing fault.message
  | .error failure => .refused (.ofVideo failure)

def ofChange : Except Video.Failure Unit → Reply
  | .ok () => .empty 204
  | .error failure => .refused (.ofVideo failure)

def ofProbe : Except Sql.Failure Unit → Reply
  | .ok () => .empty 204
  | .error failure =>
    { Reply.empty 503 with report := some ⟨"infra::http::db_health", 503, failure.chain⟩ }

def feed (r : Request)
    (answer : Option UInt32 → Option String → Viewer → Action (Except Feed.Failure Feed.Response)) :
    Action Reply := do
  match Caller.viewerOf r with
  | .error refusal => return .refused refusal
  | .ok viewer =>
    match FeedQuery.ofQuery r.query with
    | .error reason => return .plain 400 reason
    | .ok query => return ofPage (← answer query.limit query.cursor viewer)

def named (segment : String) (answer : Int64 → Action Reply) : Action Reply :=
  match Route.videoId segment with
  | .error reason => return .plain 400 reason
  | .ok id => answer id

def acting (r : Request) (answer : Int64 → Action Reply) : Action Reply :=
  match Caller.accountOf r with
  | .error refusal => return .refused refusal
  | .ok account => answer account

def publish (r : Request) (author : Int64) : Action Reply :=
  match SubmissionBody.read author r with
  | .error reply => return reply
  | .ok submission => return ofVideo 201 201 (← Video.Service.publish submission)

/-- The reply to a method that the route offers; a request for the head is one for the whole. -/
def serve (s : Site) (r : Request) : Route → Action Reply
  | .latest => feed r s.feeds.latestFromToken
  | .popular => feed r s.feeds.popularFromToken
  | .following => feed r s.feeds.followingFromToken
  | .videos => acting r (publish r)
  | .video segment =>
    if r.method = "DELETE" then
      acting r fun account => named segment fun id => return ofChange (← s.videos.delete id account)
    else named segment fun id => return ofVideo 200 500 (← s.videos.detail id)
  | .like segment =>
    acting r fun account => named segment fun id =>
      if r.method = "DELETE" then return ofChange (← s.videos.unlike id account)
      else return ofChange (← s.videos.like id account)
  | .health => return ofProbe (← Action.ask .probe)

def respond (s : Site) (r : Request) : Action Reply := do
  let reply ← match Route.ofPath? r.path with
    | none => return .empty 404
    | some route =>
      if route.methods.contains r.method then s.serve r route
      else return .notAllowed route.methods
  return if r.method = "HEAD" then reply.withoutBody else reply

end Site

end ClipFeed.Http
