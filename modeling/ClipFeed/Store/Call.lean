import ClipFeed.Feed.Page
import ClipFeed.Store.Fault
import ClipFeed.Video.Submission
/-!
What the service asks of the store. A scan answers at most as many rows as asked for, those
strictly behind the cursor in its order.
-/

namespace ClipFeed.Store

open Feed

inductive Call where
  | listLatest (page : PageRequest LatestCursor)
  | listPopular (page : PageRequest PopularCursor)
  | listFollowing (follower : Int64) (page : PageRequest LatestCursor)
  | likedAmong (account : Int64) (videos : List Int64)
  | find (id : Int64)
  | create (submission : Submission)
  | delete (id : Int64)
  | like (id account : Int64)
  | unlike (id account : Int64)
  deriving DecidableEq, Repr

namespace Call

@[reducible] def Answer : Call → Type
  | .listLatest _ => List Video
  | .listPopular _ => List Video
  | .listFollowing .. => List Video
  | .likedAmong .. => List Int64
  | .find _ => Option Video
  | .create _ => Video
  | .delete _ => Unit
  | .like .. => Unit
  | .unlike .. => Unit

def operation : Call → String
  | .listLatest _ => "list_latest"
  | .listPopular _ => "list_by_popularity"
  | .listFollowing .. => "list_by_following"
  | .likedAmong .. => "liked_among"
  | .find _ => "find_by_id"
  | .create _ => "create_video"
  | .delete _ => "delete_video"
  | .like .. => "like"
  | .unlike .. => "unlike"

end Call

end ClipFeed.Store
