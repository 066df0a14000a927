import ClipFeed.Store.Fault
import ClipFeed.Video.Submission
/-!
Why an operation on a single video fails.
-/

namespace ClipFeed.Video

inductive Failure where
  | notFound
  | forbidden
  | alreadyLiked
  | notLiked
  | submission (fault : SubmissionFault)
  | store (fault : Store.Fault)
  deriving DecidableEq, Repr

namespace Failure

def message : Failure → String
  | .notFound => "video not found"
  | .forbidden => "video belongs to another account"
  | .alreadyLiked => "video already liked"
  | .notLiked => "video not liked"
  | .submission f => f.message
  | .store f => f.message

/-- A missing row is a missing video; other store faults are passed on. -/
def ofStore : Store.Fault → Failure
  | .notFound => .notFound
  | f => .store f

/-- Liking twice breaks the uniqueness of likes. -/
def ofLike : Store.Fault → Failure
  | .duplicate _ => .alreadyLiked
  | f => ofStore f

/-- A like that is not there cannot be taken back. -/
def ofUnlike : Store.Fault → Failure
  | .notFound => .notLiked
  | f => ofStore f

end Failure

end ClipFeed.Video
