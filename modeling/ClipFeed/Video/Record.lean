import ClipFeed.Payload.Shape
/-!
Published videos as the store keeps them. Whether somebody likes a video is not part of it.
-/

namespace ClipFeed

open Payload

structure Video where
  id : Int64
  authorId : Int64
  username : String
  title : String
  description : Option String
  playUrl : String
  coverUrl : String
  likesCount : Int64
  popularity : Int64
  createdAt : Moment
  deriving DecidableEq, Repr

namespace Video

def fields : Fields :=
  .field "id" false .int64 <| .field "author_id" false .int64 <| .field "username" false .text <|
  .field "title" false .text <| .field "description" false (.optional .text) <|
  .field "play_url" false .text <| .field "cover_url" false .text <|
  .field "likes_count" false .int64 <| .field "popularity" false .int64 <|
  .field "created_at" false .moment .none

def shape : Shape :=
  .record "VideoRecord" fields

def toVal (v : Video) : shape.Val :=
  (v.id, v.authorId, v.username, v.title, v.description, v.playUrl, v.coverUrl, v.likesCount,
    v.popularity, v.createdAt, ())

def ofVal : shape.Val → Video
  | (id, authorId, username, title, description, playUrl, coverUrl, likesCount, popularity,
      createdAt, ()) =>
    ⟨id, authorId, username, title, description, playUrl, coverUrl, likesCount, popularity,
      createdAt⟩

theorem ofVal_toVal (v : Video) : ofVal v.toVal = v := rfl

/-- The JSON of a video, unless its creation time has no written form. -/
def toJson (v : Video) : Except Moment.WriteFault Json.Value :=
  shape.toJson v.toVal

end Video

end ClipFeed
