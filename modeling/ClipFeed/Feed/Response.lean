import ClipFeed.Feed.Page
/-!
Feed pages as viewers see them: the videos of a page, each with its author apart, its creation
time in seconds and a flag that says whether the viewer likes it.
-/

namespace ClipFeed.Feed

open Json

/-- A video as one viewer sees it. -/
structure Item where
  video : Video
  isLiked : Bool
  deriving DecidableEq, Repr

/-- The members of an item. A missing description is left out. -/
def Item.toJson (i : Item) : Value :=
  let v := i.video
  .object <|
    [("id", .int64 v.id),
      ("author", .object [("id", .int64 v.authorId), ("username", .text v.username)]),
      ("title", .text v.title)] ++
    (match v.description with
      | some d => [("description", .text d)]
      | none => []) ++
    [("play_url", .text v.playUrl), ("cover_url", .text v.coverUrl),
      ("create_time", .integer v.createdAt.unixSeconds),
      ("likes_count", .int64 v.likesCount), ("is_liked", .flag i.isLiked)]

structure Response where
  videos : List Item
  nextCursor : Option String
  hasMore : Bool
  deriving DecidableEq, Repr

def Response.toJson (r : Response) : Value :=
  .object
    [("videos", .list (r.videos.map Item.toJson)), ("next_cursor", .orNull .text r.nextCursor),
      ("has_more", .flag r.hasMore)]

def Response.ofPage {γ : Type} (page : Page Video γ) (liked : List Int64) (encode : γ → String) :
    Response :=
  ⟨page.items.map fun v => ⟨v, liked.contains v.id⟩, page.nextCursor.map encode, page.hasMore⟩

end ClipFeed.Feed
