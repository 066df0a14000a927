import ClipFeed.Feed.Cursor
import ClipFeed.Video.Record
/-!
Pages of a scan. A store is asked for exactly as many rows as the page holds, so a full page means
that there may be more.
-/

namespace ClipFeed.Feed

structure PageRequest (γ : Type) where
  limit : UInt32
  cursor : Option γ
  deriving DecidableEq, Repr

structure Page (α γ : Type) where
  items : List α
  hasMore : Bool
  nextCursor : Option γ
  deriving DecidableEq, Repr

namespace Page

def ofRows {α γ : Type} (rows : List α) (limit : UInt32) (cursorOf : α → γ) : Page α γ :=
  match rows with
  | [] => ⟨[], false, none⟩
  | _ :: _ => ⟨rows, rows.length == limit.toNat, rows.getLast?.map cursorOf⟩

open Payload

/-- The shape of a page of videos whose cursors have a shape of their own. -/
def fields (cursor : Shape) : Fields :=
  .field "items" false (.list Video.shape) <| .field "has_more" false .flag <|
  .field "next_cursor" false (.optional cursor) .none

def shape (cursor : Shape) : Shape :=
  .record "Page" (fields cursor)

end Page

abbrev LatestPage := Page Video LatestCursor
abbrev PopularPage := Page Video PopularCursor

def latestPage (rows : List Video) (limit : UInt32) : LatestPage :=
  .ofRows rows limit fun v => .afterRow v.createdAt v.id

def popularPage (rows : List Video) (limit : UInt32) : PopularPage :=
  .ofRows rows limit fun v => .afterRow v.likesCount v.id

namespace LatestPage

def shape : Payload.Shape := Page.shape LatestCursor.shape

def toVal (p : LatestPage) : shape.Val :=
  (p.items.map Video.toVal, p.hasMore, p.nextCursor.map LatestCursor.toVal, ())

def ofVal : shape.Val → LatestPage
  | (items, hasMore, next, ()) => ⟨items.map Video.ofVal, hasMore, next.map LatestCursor.ofVal⟩

end LatestPage

namespace PopularPage

def shape : Payload.Shape := Page.shape PopularCursor.shape

def toVal (p : PopularPage) : shape.Val :=
  (p.items.map Video.toVal, p.hasMore, p.nextCursor.map PopularCursor.toVal, ())

def ofVal : shape.Val → PopularPage
  | (items, hasMore, next, ()) => ⟨items.map Video.ofVal, hasMore, next.map PopularCursor.ofVal⟩

end PopularPage

end ClipFeed.Feed
