import ClipFeed.Proofs.Cache.Codec
import ClipFeed.Proofs.Cache.Course
import ClipFeed.Proofs.Cache.Key
import ClipFeed.Proofs.Payload.Writing
import ClipFeed.Proofs.Service.Transparency
/-!
What is kept of computed values. A value is kept in its written form, which reads back as that
value; a value without one is returned all the same, and nothing is stored for it.
-/

namespace ClipFeed

open Payload Text

theorem Cache.Codec.exists_encode_ofShape_iff {α : Type} {s : Shape} {toVal : α → s.Val}
    {ofVal : s.Val → α} {a : α} :
    (∃ bs, (ofShape s toVal ofVal).encode a = .ok bs) ↔
      ∀ m ∈ s.moments (toVal a), m.Writable := by
  rw [ofShape, exists_mapError_iff, exists_write_iff]

private theorem Video.moments_shape (v : Video) : Video.shape.moments v.toVal = [v.createdAt] := by
  obtain ⟨_, _, _, _, description, _, _, _, _, _⟩ := v
  cases description <;> rfl

private theorem Video.exists_encode_iff {v : Video} :
    (∃ bs, Video.codec.encode v = .ok bs) ↔ v.createdAt.Writable := by
  rw [Video.codec, Cache.Codec.exists_encode_ofShape_iff, Video.moments_shape,
    List.forall_mem_singleton]

namespace Feed

private theorem Page.moments_shape (cursor : Shape) (items : List Video) (hasMore : Bool)
    (next : Option cursor.Val) :
    (Page.shape cursor).moments (items.map Video.toVal, hasMore, next, ()) =
      items.map Video.createdAt ++ next.elim [] cursor.moments := by
  have videos : (items.map Video.toVal).flatMap Video.shape.moments =
      items.map Video.createdAt := by
    rw [List.flatMap_map]
    simp [Video.moments_shape, List.map_eq_flatMap]
  cases next <;> simp [Page.shape, Page.fields, Shape.moments, Fields.moments, videos]

private theorem LatestCursor.moments_shape (c : LatestCursor) :
    LatestCursor.shape.moments c.toVal = [c.before] := by
  obtain ⟨_, id⟩ := c
  cases id <;> rfl

private theorem LatestPage.moments_shape (p : LatestPage) :
    LatestPage.shape.moments (LatestPage.toVal p) =
    p.items.map Video.createdAt ++ p.nextCursor.toList.map LatestCursor.before := by
  obtain ⟨items, hasMore, next⟩ := p
  refine (Page.moments_shape LatestCursor.shape items hasMore _).trans ?_
  cases next with
  | none => rfl
  | some c => exact congrArg (items.map Video.createdAt ++ ·) (LatestCursor.moments_shape c)

private theorem PopularPage.moments_shape (p : PopularPage) :
    PopularPage.shape.moments (PopularPage.toVal p) = p.items.map Video.createdAt := by
  obtain ⟨items, hasMore, next⟩ := p
  refine (Page.moments_shape PopularCursor.shape items hasMore _).trans ?_
  cases next <;> exact List.append_nil _

private theorem LatestPage.exists_encode_iff {p : LatestPage} :
    (∃ bs, LatestPage.codec.encode p = .ok bs) ↔
      (∀ v ∈ p.items, v.createdAt.Writable) ∧ ∀ c ∈ p.nextCursor, c.before.Writable := by
  rw [LatestPage.codec, Cache.Codec.exists_encode_ofShape_iff, LatestPage.moments_shape,
    List.forall_mem_append, List.forall_mem_map, List.forall_mem_map]
  simp only [Option.mem_toList, Option.mem_def]

private theorem PopularPage.exists_encode_iff {p : PopularPage} :
    (∃ bs, PopularPage.codec.encode p = .ok bs) ↔ ∀ v ∈ p.items, v.createdAt.Writable := by
  rw [PopularPage.codec, Cache.Codec.exists_encode_ofShape_iff, PopularPage.moments_shape,
    List.forall_mem_map]

end Feed

namespace Cache

open Operation

variable {α ε : Type} {codec : Codec α} {key : Key} {policy : Policy} {polls : Nat}
  {ops : List Operation} {made : Option (Except ε α)} {o : Except ε α}

/-- Behind a computed value without a written form the entry is only looked for. -/
theorem Course.of_unwritten {v : α} {reason : String}
    (course : Course codec key policy polls ops (some (.ok v)) o)
    (unwritten : codec.encode v = .error reason) {op : Operation} (member : op ∈ ops)
    (under : op.1.key = key.name) : op.1 = .get key.name := by
  obtain ⟨way, describes, _⟩ := course.way
  rcases describes.calls member with ⟨r, rfl⟩ | ⟨lock, _⟩ | ⟨⟨bs, r⟩, rfl⟩
  · rfl
  · exact absurd (lock.symm.trans under) (Key.lockName_ne_name key key)
  · have stored : (key.name, bs, policy.ttl) ∈ stores ops :=
      List.mem_filterMap.mpr ⟨_, member, rfl⟩
    obtain ⟨_, _, ⟨w, made, encoded⟩, _⟩ := course.mem_stores_iff.mp stored
    obtain rfl := Except.ok.inj (Option.some.inj made)
    rw [unwritten] at encoded
    cases encoded

/-- Whatever is kept of a video or a page reads back as that video or page, its moments with their
instants and offsets, and there is something to keep exactly when all moments have a written form.
However a resolution is answered, a computed value is what it returns, and if that has no written
form, nothing but lookups is asked of the entry. -/
theorem kept_values_read_back :
    (∀ v bs, Video.codec.encode v = .ok bs → Video.codec.decode bs = .ok v) ∧
    (∀ p bs, Feed.LatestPage.codec.encode p = .ok bs → Feed.LatestPage.codec.decode bs = .ok p) ∧
    (∀ p bs, Feed.PopularPage.codec.encode p = .ok bs →
      Feed.PopularPage.codec.decode bs = .ok p) ∧
    (∀ v, (∃ bs, Video.codec.encode v = .ok bs) ↔ v.createdAt.Writable) ∧
    (∀ p, (∃ bs, Feed.LatestPage.codec.encode p = .ok bs) ↔
      (∀ v ∈ p.items, v.createdAt.Writable) ∧ ∀ c ∈ p.nextCursor, c.before.Writable) ∧
    (∀ p, (∃ bs, Feed.PopularPage.codec.encode p = .ok bs) ↔
      ∀ v ∈ p.items, v.createdAt.Writable) ∧
    ∀ {α ε σ : Type} (g : Gateway) (codec : Codec α) (key : Key) (policy : Policy)
      (compute : Action (Except ε α)) (answer : σ → (q : Effect) → q.Answer × σ) (s : σ),
      ∃ a : Account α ε, a.whole = (g.resolve codec key policy compute).transcript answer s ∧
        (∀ x ∈ a.own, g.Own x.1) ∧
        (a.computed = none ↔
          ∃ bs v, .answered (some bs) ∈ lookups a.operations ∧ codec.decode bs = .ok v) ∧
        ∀ during r, a.computed = some (during, r) → compute.Ends during r ∧
          ((g.resolve codec key policy compute).run answer s).1 = r ∧
          ∀ v reason, r = .ok v → codec.encode v = .error reason →
            ∀ op ∈ a.operations, op.1.key = key.name → op.1 = .get key.name := by
  refine ⟨Video.faithful_codec, Feed.LatestPage.faithful_codec, Feed.PopularPage.faithful_codec,
    fun _ => Video.exists_encode_iff, fun _ => Feed.LatestPage.exists_encode_iff,
    fun _ => Feed.PopularPage.exists_encode_iff, ?_⟩
  intro α ε σ g codec key policy compute answer s
  obtain ⟨a, whole, own, ran, course⟩ := Gateway.exists_account
    (Dialogue.ends_transcript answer s (g.resolve codec key policy compute))
  refine ⟨a, whole, own, by simpa using course.none_iff, ?_⟩
  intro during r computed
  rw [computed] at course
  refine ⟨ran during r computed, course.computed.1, ?_⟩
  rintro v reason rfl unwritten op member under
  exact course.of_unwritten unwritten member under

/-- A video of midnight an hour east reads back; one of thirty seconds east has no written form and
is returned by a resolution that stores nothing. -/
theorem kept_videos_read_back :
    let v : Video := ⟨1, 7, "ada", "dawn", none, "/p/1", "/c/1", 0, 0, ⟨0, 3600⟩⟩
    let odd : Video := { v with createdAt := ⟨0, 30⟩ }
    let found := (Gateway.mk "memory" 5 0 2).resolve (ε := Store.Fault) Video.codec (.video 1)
      ⟨9, 3⟩ (.done (.ok odd))
    let answer := fun (_ : Unit) q => (uncachedAnswer (fun _ => .error .timeout) "t" q, ())
    (∃ bs, Video.codec.encode v = .ok bs ∧ Video.codec.decode bs = .ok v) ∧
      (found.run answer ()).1 = .ok odd ∧ ∃ a : Account Video Store.Fault,
        a.whole = found.transcript answer () ∧
        ∀ op ∈ a.operations, op.1.key = "video:detail:id=1" → op.1 = .get "video:detail:id=1" := by
  intro v odd found answer
  obtain ⟨reads, -, -, writes, -, -, resolves⟩ := kept_values_read_back
  obtain ⟨bs, encoded⟩ := (writes v).mpr ⟨by decide, by decide, by decide⟩
  obtain ⟨a, whole, -, found_iff, computed_only⟩ := resolves (ε := Store.Fault) ⟨"memory", 5, 0, 2⟩
    Video.codec (.video 1) ⟨9, 3⟩ (.done (.ok odd)) answer ()
  cases made : a.computed with
  | none =>
    obtain ⟨bs, _, shown, _⟩ := found_iff.mp made
    obtain ⟨_, looked⟩ := Operation.mem_lookups.mp shown
    obtain ⟨_, asked⟩ := a.asked_of_mem looked
    rw [whole] at asked
    obtain ⟨_, given⟩ := Dialogue.answered_of_mem_transcript asked
    cases given
  | some outcome =>
    obtain ⟨during, r⟩ := outcome
    obtain ⟨ended, returned, unstored⟩ := computed_only during r made
    cases ended
    cases written : Video.codec.encode odd with
    | ok bs => exact absurd ((writes odd).mp ⟨bs, written⟩).minutes (by decide)
    | error reason =>
      exact ⟨⟨bs, encoded, reads v bs encoded⟩, returned, a, whole,
        unstored odd reason rfl written⟩

end Cache

end ClipFeed
