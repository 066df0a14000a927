import ClipFeed.Feed.Cursor
/-!
Cache keys. A key names a query: one video, or a page of a feed by its size and position. Only the
feed of followed authors carries the viewer.
-/

namespace ClipFeed.Cache

open Feed

inductive Key where
  | video (id : Int64)
  | latest (limit : UInt32) (cursor : Option LatestCursor)
  | popular (limit : UInt32) (cursor : Option PopularCursor)
  | following (viewer : Int64) (limit : UInt32) (cursor : Option LatestCursor)
  deriving DecidableEq, Repr

namespace Key

def latestPosition : Option LatestCursor → String
  | none => "start"
  | some c => toString c.beforeMicros ++ match c.id with
    | some id => "." ++ toString id
    | none => ""

def popularPosition : Option PopularCursor → String
  | none => "start"
  | some c => toString c.likesCount ++ "." ++ toString c.id

def name : Key → String
  | .video id => "video:detail:id=" ++ toString id
  | .latest limit cursor =>
    "feed:latest:limit=" ++ toString limit ++ ":before=" ++ latestPosition cursor
  | .popular limit cursor =>
    "feed:popular:limit=" ++ toString limit ++ ":after=" ++ popularPosition cursor
  | .following viewer limit cursor =>
    "feed:following:viewer=" ++ toString viewer ++ ":limit=" ++ toString limit ++ ":before=" ++
      latestPosition cursor

/-- The entry that marks its backfill as taken. -/
def lockName (k : Key) : String :=
  "lock:" ++ k.name

end Key

end ClipFeed.Cache
