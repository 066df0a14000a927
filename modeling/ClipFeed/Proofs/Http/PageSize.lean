import ClipFeed.Proofs.Feed.Sizes
import ClipFeed.Proofs.Http.FeedQuery
/-!
Page sizes of requests. Whatever text is given for it, a request has one page size, within the
limits, and no text is a reason to refuse the request.
-/

namespace ClipFeed.Http

open Feed

/-- A feed request that gives its fields once at most has one page size: what is granted to the text
of its limit, and that lies between one and the maximum. This size is asked of the store and written
into the keys of the cache. Only a position that cannot be read or a fault of the store keeps the
request from a page; a page comes from a listing or from an entry of this size, and after a listing
there is more exactly if that has as many rows. -/
theorem page_sizes_granted (s : Site) (feed : Kind) (r : Request) (viewer : Viewer)
    (sound : s.feeds.limits.Sound) (get : r.method = "GET") (path : r.path = feedPath feed)
    (named : Caller.viewer? r = some viewer) (single : FeedQuery.Single r.query) :
    ∃ size : UInt32,
      (∀ other, s.feeds.limits.Grants (FeedQuery.text? r.query "limit") other ↔ other = size) ∧
      1 ≤ size ∧ size ≤ s.feeds.limits.max ∧ (s.respond r).Asks (Sized size) ∧
      ∀ xs reply, (s.respond r).Ends xs reply →
        (∃ failure, Service.position feed.decode (FeedQuery.text? r.query "cursor") =
          .error failure ∧ reply = .refused (.ofFeed failure)) ∨
        ∃ o, Answers size xs o ∧ reply = Site.ofPage o := by
  have read := FeedQuery.ofQuery_of_single single
  have replies : s.respond r = _ := Site.respond_of_read get path named read
  simp only at replies
  generalize asked : (FeedQuery.text? r.query "limit").bind FeedQuery.parseLimit? = limit at replies
  obtain ⟨positive, below⟩ := sound.clamp limit
  refine ⟨s.feeds.limits.clamp limit, ?_, positive, below, ?_, ?_⟩
  · intro other
    rw [← asked]
    constructor
    · exact Limits.Grants.eq_clamp
    · rintro rfl
      exact Limits.grants_clamp _ _
  · rw [replies]
    split
    · exact (s.feeds.asks_page limit feed _ viewer).bind fun _ => Dialogue.asks_done _
    · exact Dialogue.asks_done _
  · intro xs reply ended
    rw [replies] at ended
    split at ended
    · next cursor placed =>
      obtain ⟨ys, o, _, paged, rest, rfl⟩ := ended.of_bind
      obtain ⟨rfl, rfl⟩ := Dialogue.ends_done_iff.mp rest
      rw [List.append_nil]
      exact .inr ⟨o, s.feeds.answers_page positive paged, rfl⟩
    · next failure misplaced =>
      obtain ⟨rfl, rfl⟩ := Dialogue.ends_done_iff.mp ended
      exact .inl ⟨failure, misplaced, rfl⟩

/-- Seven behind a blank, a plus and zeros, and a number beyond all bounds. -/
theorem page_sizes_granted_of_two :
    let cached : Cache.Gateway := ⟨"memory", 5, 0, 2⟩
    let s : Site := ⟨⟨cached, ⟨9, 3⟩, .standard⟩, ⟨cached, ⟨9, 3⟩⟩⟩
    let padded : Request := ⟨"GET", "/feed/popular", some "limit=%20%2B007", [], []⟩
    let huge : Request :=
      ⟨"GET", "/feed/following", some "limit=99999999999999999999&cursor=",
        [("x-viewer-id", Text.bytes "7")], []⟩
    (s.respond padded).Asks (Sized 7) ∧ (s.respond huge).Asks (Sized 10) ∧
      ∀ xs reply, (s.respond huge).Ends xs reply →
        ∃ o, Answers 10 xs o ∧ reply = Site.ofPage o := by
  intro cached s padded huge
  have granted (r : Request) := Limits.grants_clamp .standard (FeedQuery.text? r.query "limit")
  have seven : Limits.standard.clamp
      ((FeedQuery.text? padded.query "limit").bind FeedQuery.parseLimit?) = 7 := by
    decide +kernel
  have ten : Limits.standard.clamp
      ((FeedQuery.text? huge.query "limit").bind FeedQuery.parseLimit?) = 10 := by
    decide +kernel
  obtain ⟨_, few, -, -, fewAsked, -⟩ := page_sizes_granted s .popular padded .anonymous (by decide)
    rfl rfl (by decide +kernel) (by decide +kernel)
  obtain ⟨_, many, -, -, manyAsked, replies⟩ := page_sizes_granted s .following huge (.account 7)
    (by decide) rfl rfl (by decide +kernel) (by decide +kernel)
  obtain rfl := (few _).mp (seven ▸ granted padded)
  obtain rfl := (many _).mp (ten ▸ granted huge)
  refine ⟨fewAsked, manyAsked, ?_⟩
  intro xs reply ended
  rcases replies xs reply ended with ⟨failure, misplaced, -⟩ | answered
  · have blank : ∀ text ∈ FeedQuery.text? huge.query "cursor", Text.Blank text := by
      decide +kernel
    rw [Service.position_of_blank _ blank] at misplaced
    cases misplaced
  · exact answered

end ClipFeed.Http
