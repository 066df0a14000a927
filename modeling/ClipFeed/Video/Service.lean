import ClipFeed.Cache.Gateway
import ClipFeed.Video.Failure
/-!
Operations on single videos. Reads go through the cache; every change of a stored video evicts its
entry once the store has taken the change.
-/

namespace ClipFeed.Video

def codec : Cache.Codec Video :=
  .ofShape shape toVal ofVal

structure Service where
  gateway : Cache.Gateway
  policy : Cache.Policy
  deriving DecidableEq, Repr

namespace Service

def target : String := "vidfeed::application::videos"

def find (id : Int64) : Action (Except Failure Video) := do
  match ← Action.store (.find id) with
  | .ok (some v) => return .ok v
  | .ok none => return .error .notFound
  | .error fault => return .error (.ofStore fault)

/-- The video, from the cache if possible. That it is missing is never cached. -/
def detail (s : Service) (id : Int64) : Action (Except Failure Video) :=
  s.gateway.resolve codec (.video id) s.policy (find id)

def publish (submission : Submission) : Action (Except Failure Video) := do
  match submission.validate with
  | .error fault => return .error (.submission fault)
  | .ok valid =>
    match ← Action.store (.create valid) with
    | .error fault => return .error (.ofStore fault)
    | .ok v =>
      Action.log ⟨.info, target, "video published",
        [("video_id", .number v.id.toInt), ("author_id", .number valid.authorId.toInt)]⟩
      return .ok v

/-- The outcome of a change, after the entry of a changed video is evicted. -/
def settle (s : Service) (id : Int64) : Except Failure Unit → Action (Except Failure Unit)
  | .error failure => return .error failure
  | .ok () => do
    s.gateway.videoChanged id
    return .ok ()

/-- Only the author may delete a video. -/
def delete (s : Service) (id requester : Int64) : Action (Except Failure Unit) := do
  match ← find id with
  | .error failure => return .error failure
  | .ok v =>
    if v.authorId = requester then
      s.settle id ((← Action.store (.delete id)).mapError .ofStore)
    else return .error .forbidden

def like (s : Service) (id account : Int64) : Action (Except Failure Unit) := do
  s.settle id ((← Action.store (.like id account)).mapError .ofLike)

def unlike (s : Service) (id account : Int64) : Action (Except Failure Unit) := do
  s.settle id ((← Action.store (.unlike id account)).mapError .ofUnlike)

end Service

end ClipFeed.Video
