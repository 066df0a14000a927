import ClipFeed.Feed.Service
import ClipFeed.Proofs.Payload.RoundTrip
import ClipFeed.Video.Service
/-!
Codecs that lose nothing: whatever a value is kept as reads back as that value. The codecs of videos
and of both kinds of pages are such.
-/

namespace ClipFeed

open Payload Text

/-- Whether the bytes of a value always read back as that value. -/
def Cache.Codec.Faithful {α : Type} (codec : Cache.Codec α) : Prop :=
  ∀ a bs, codec.encode a = .ok bs → codec.decode bs = .ok a

theorem Cache.Codec.faithful_ofShape {α : Type} {s : Shape} {toVal : α → s.Val} {ofVal : s.Val → α}
    (faithful : s.Faithful) (inverse : ∀ a, ofVal (toVal a) = a) :
    (ofShape s toVal ofVal).Faithful := by
  intro a bs encoded
  cases written : s.write (toVal a) with
  | error fault => simp [ofShape, written, Except.mapError] at encoded
  | ok out =>
    obtain rfl : out = bs := by simpa [ofShape, written, Except.mapError] using encoded
    simp [ofShape, parse_write faithful written, inverse]

private theorem Video.faithful_shape : Video.shape.Faithful := by
  simp [Video.shape, Video.fields, Shape.Faithful, Fields.Faithful, Fields.names, Shape.absent?]

theorem Video.faithful_codec : Video.codec.Faithful :=
  Cache.Codec.faithful_ofShape Video.faithful_shape Video.ofVal_toVal

namespace Feed

private theorem LatestCursor.faithful_shape : LatestCursor.shape.Faithful := by
  simp [LatestCursor.shape, LatestCursor.fields, Shape.Faithful, Fields.Faithful, Fields.names,
    Shape.absent?]

private theorem PopularCursor.faithful_shape : PopularCursor.shape.Faithful := by
  simp [PopularCursor.shape, PopularCursor.fields, Shape.Faithful, Fields.Faithful, Fields.names]

/-- A page reads back if its cursors do and are never absent themselves. -/
theorem Page.faithful_shape {cursor : Shape} (faithful : cursor.Faithful)
    (present : cursor.absent? = none) : (Page.shape cursor).Faithful := by
  simp [Page.shape, Page.fields, Shape.Faithful, Fields.Faithful, Fields.names,
    Video.faithful_shape, faithful, present]

theorem LatestPage.ofVal_toVal (p : LatestPage) : LatestPage.ofVal (LatestPage.toVal p) = p := by
  obtain ⟨items, hasMore, next⟩ := p
  have videos : (items.map Video.toVal).map Video.ofVal = items := by
    rw [List.map_map]
    exact (List.map_congr_left fun v _ => Video.ofVal_toVal v).trans (List.map_id items)
  have position : (next.map LatestCursor.toVal).map LatestCursor.ofVal = next := by
    cases next <;> rfl
  simp only [LatestPage.ofVal, LatestPage.toVal, videos, position]

theorem PopularPage.ofVal_toVal (p : PopularPage) :
    PopularPage.ofVal (PopularPage.toVal p) = p := by
  obtain ⟨items, hasMore, next⟩ := p
  have videos : (items.map Video.toVal).map Video.ofVal = items := by
    rw [List.map_map]
    exact (List.map_congr_left fun v _ => Video.ofVal_toVal v).trans (List.map_id items)
  have position : (next.map PopularCursor.toVal).map PopularCursor.ofVal = next := by
    cases next <;> rfl
  simp only [PopularPage.ofVal, PopularPage.toVal, videos, position]

theorem LatestPage.faithful_codec : LatestPage.codec.Faithful :=
  Cache.Codec.faithful_ofShape (Page.faithful_shape LatestCursor.faithful_shape rfl)
    LatestPage.ofVal_toVal

theorem PopularPage.faithful_codec : PopularPage.codec.Faithful :=
  Cache.Codec.faithful_ofShape (Page.faithful_shape PopularCursor.faithful_shape rfl)
    PopularPage.ofVal_toVal

end Feed

end ClipFeed
