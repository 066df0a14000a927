import ClipFeed.Proofs.Feed.Normal
import ClipFeed.Proofs.Http.Exchange
import ClipFeed.Proofs.Service.Reading
import ClipFeed.Proofs.Text.Split
/-!
Feed requests that cannot be read. The caller, the query and the token are checked in this order on
all three feeds, and nothing is asked of the store or the cache before all of them have passed.
-/

namespace ClipFeed

open Text

namespace Feed

namespace Kind

@[reducible] def Cursor : Kind → Type
  | .latest => LatestCursor
  | .popular => PopularCursor
  | .following => LatestCursor

def decode : (feed : Kind) → String → Except CursorFault (Option feed.Cursor)
  | .latest => LatestCursor.decode
  | .popular => PopularCursor.decode
  | .following => LatestCursor.decode

private theorem decode_trim (feed : Kind) (token : String) :
    feed.decode (trim token) = feed.decode token := by
  have latest : LatestCursor.decode (trim token) = LatestCursor.decode token := by
    rw [LatestCursor.decode, LatestCursor.decode, decodePayload_trim]
  cases feed with
  | latest => exact latest
  | popular => rw [decode, PopularCursor.decode, PopularCursor.decode, decodePayload_trim]
  | following => exact latest

end Kind

namespace Service

def page (s : Service) : (feed : Kind) → Option UInt32 → Option feed.Cursor → Viewer →
    Action (Except Failure Response)
  | .latest => s.latest
  | .popular => s.popular
  | .following => s.following

/-- Blank tokens name the start of a feed, as no token does. -/
theorem position_of_blank {γ : Type} (decode : String → Except CursorFault (Option γ))
    {token : Option String} (blank : ∀ text ∈ token, Blank text) :
    position decode token = .ok none := by
  cases token with
  | none => rfl
  | some text => rw [position, Option.bind_some, trimmed?_of_blank (blank text rfl)]

private theorem position_of_not_blank (feed : Kind) {token : String} (solid : ¬ Blank token) :
    position feed.decode (some token) = (feed.decode token).mapError .cursor := by
  rw [position, Option.bind_some, trimmed?_of_not_blank solid]
  simp only [feed.decode_trim]

theorem pageFromToken_eq (s : Service) (feed : Kind) (limit : Option UInt32)
    (token : Option String) (viewer : Viewer) :
    s.pageFromToken feed limit token viewer =
      match position feed.decode token with
      | .ok cursor => s.page feed limit cursor viewer
      | .error failure => return .error failure := by
  cases feed with
  | latest =>
    rw [pageFromToken, latestFromToken, Kind.decode]
    cases position LatestCursor.decode token <;> rfl
  | popular =>
    rw [pageFromToken, popularFromToken, Kind.decode]
    cases position PopularCursor.decode token <;> rfl
  | following =>
    rw [pageFromToken, followingFromToken, Kind.decode]
    cases position LatestCursor.decode token <;> rfl

end Service

end Feed

namespace Http

open Feed

def feedPath : Kind → String
  | .latest => "/feed/latest"
  | .popular => "/feed/popular"
  | .following => "/feed/following"

def feedRoute : Kind → Route
  | .latest => .latest
  | .popular => .popular
  | .following => .following

theorem ofPath?_feedPath (feed : Kind) : Route.ofPath? (feedPath feed) = some (feedRoute feed) := by
  have pieces : (feedPath feed).splitOn "/" =
      ((feedPath feed).toList.splitOn '/').map String.ofList := splitOn_singleton _ '/'
  rw [Route.ofPath?, pieces]
  cases feed with
  | latest => rfl
  | popular => rfl
  | following => rfl

namespace Site

variable {s : Site} {feed : Kind} {r : Request} {viewer : Viewer} {query : FeedQuery}

theorem respond_feed (get : r.method = "GET") (path : r.path = feedPath feed) :
    s.respond r = Site.feed r (s.feeds.pageFromToken feed) := by
  have named : Route.ofPath? r.path = some (feedRoute feed) := by
    rw [path, ofPath?_feedPath]
  have whole : r.method ≠ "HEAD" := by
    rw [get]
    decide
  cases feed with
  | latest => exact s.respond_eq named (get ▸ List.mem_cons_self) whole
  | popular => exact s.respond_eq named (get ▸ List.mem_cons_self) whole
  | following => exact s.respond_eq named (get ▸ List.mem_cons_self) whole

section

variable {answer : Option UInt32 → Option String → Viewer → Action (Except Failure Response)}

private theorem feed_of_misnamed (misnamed : r.Misnamed) :
    Site.feed r answer = .done (.refused .misnamed) := by
  rw [Site.feed, Caller.viewerOf_of_misnamed misnamed]
  rfl

private theorem feed_of_unread (named : Caller.viewer? r = some viewer) {reason : String}
    (unread : FeedQuery.ofQuery r.query = .error reason) :
    Site.feed r answer = .done (.plain 400 reason) := by
  rw [Site.feed, Caller.viewerOf_of_viewer named, unread]
  rfl

private theorem feed_of_read (named : Caller.viewer? r = some viewer)
    (read : FeedQuery.ofQuery r.query = .ok query) :
    Site.feed r answer = do return ofPage (← answer query.limit query.cursor viewer) := by
  rw [Site.feed, Caller.viewerOf_of_viewer named, read]

end

theorem respond_of_read (get : r.method = "GET") (path : r.path = feedPath feed)
    (named : Caller.viewer? r = some viewer) (read : FeedQuery.ofQuery r.query = .ok query) :
    s.respond r = match Service.position feed.decode query.cursor with
      | .ok cursor => do return ofPage (← s.feeds.page feed query.limit cursor viewer)
      | .error failure => return .refused (.ofFeed failure) := by
  rw [respond_feed get path, feed_of_read named read, Service.pageFromToken_eq]
  cases Service.position feed.decode query.cursor with
  | ok cursor => rfl
  | error failure => rfl

/-- Why a feed request is refused, with the reply: its header, its query, or its token, in this
order. -/
inductive Refused (feed : Kind) (r : Request) : Reply → Prop where
  | caller (misnamed : r.Misnamed) : Refused feed r (.refused .misnamed)
  | query {reason : String} (named : ¬ r.Misnamed)
      (unread : FeedQuery.ofQuery r.query = .error reason) : Refused feed r (.plain 400 reason)
  | token {query : FeedQuery} {token : String} {fault : CursorFault} (named : ¬ r.Misnamed)
      (read : FeedQuery.ofQuery r.query = .ok query) (given : query.cursor = some token)
      (solid : ¬ Blank token) (malformed : feed.decode token = .error fault) :
      Refused feed r (.refused ⟨400, "invalid_cursor", "Invalid cursor", some fault.message⟩)

private theorem exists_viewer (named : ¬ r.Misnamed) :
    ∃ viewer, Caller.viewer? r = some viewer := by
  rw [← Request.viewer?_eq_none_iff] at named
  exact Option.ne_none_iff_exists'.mp named

theorem Refused.respond_eq (get : r.method = "GET") (path : r.path = feedPath feed) {reply : Reply}
    (refused : Refused feed r reply) : s.respond r = .done reply := by
  cases refused with
  | caller misnamed => rw [respond_feed get path, feed_of_misnamed misnamed]
  | query named unread =>
    obtain ⟨viewer, named⟩ := exists_viewer named
    rw [respond_feed get path, feed_of_unread named unread]
  | token named read given solid malformed =>
    obtain ⟨viewer, named⟩ := exists_viewer named
    rw [respond_of_read get path named read, given, Service.position_of_not_blank feed solid,
      malformed]
    rfl

theorem Refused.status {reply : Reply} (refused : Refused feed r reply) : reply.status = 400 := by
  cases refused <;> rfl

/-- A request that fails one of the checks is refused for the first that it fails. -/
theorem exists_refused (bad : r.Misnamed ∨ (∃ reason, FeedQuery.ofQuery r.query = .error reason) ∨
    ∃ query token fault, FeedQuery.ofQuery r.query = .ok query ∧ query.cursor = some token ∧
      ¬ Blank token ∧ feed.decode token = .error fault) : ∃ reply, Refused feed r reply := by
  by_cases misnamed : r.Misnamed
  · exact ⟨_, .caller misnamed⟩
  · rcases bad with bad | ⟨reason, unread⟩ | ⟨query, token, fault, read, given, solid, malformed⟩
    · exact absurd bad misnamed
    · exact ⟨_, .query misnamed unread⟩
    · exact ⟨_, .token misnamed read given solid malformed⟩

end Site

/-- A feed request whose header holds no number, whose query cannot be read, or whose token is not
blank and malformed for the feed, is replied with status 400, and neither the store nor the cache
is asked. A malformed token behind a readable header and query has a code of its own. No token and
a blank one are the start of the feed, and every other token is the position that it names. -/
theorem feed_requests_checked (s : Site) (feed : Kind) (r : Request) (get : r.method = "GET")
    (path : r.path = feedPath feed) :
    ((r.Misnamed ∨ (∃ reason, FeedQuery.ofQuery r.query = .error reason) ∨
        ∃ query token fault, FeedQuery.ofQuery r.query = .ok query ∧ query.cursor = some token ∧
          ¬ Blank token ∧ feed.decode token = .error fault) →
      ∃ reply, Site.Refused feed r reply ∧ reply.status = 400 ∧ s.RepliesAlone r reply) ∧
    ∀ query, FeedQuery.ofQuery r.query = .ok query →
      (∀ token fault, ¬ r.Misnamed → query.cursor = some token → ¬ Blank token →
        feed.decode token = .error fault →
        s.RepliesAlone r
          (.refused ⟨400, "invalid_cursor", "Invalid cursor", some fault.message⟩)) ∧
      ∀ viewer, Caller.viewer? r = some viewer →
        ((∀ token ∈ query.cursor, Blank token) →
          s.respond r = do
            return Site.ofPage (← s.feeds.page feed query.limit none viewer)) ∧
        ∀ token cursor, query.cursor = some token → ¬ Blank token →
          feed.decode token = .ok cursor →
          s.respond r = do
            return Site.ofPage (← s.feeds.page feed query.limit cursor viewer) := by
  refine ⟨fun bad => ?_, fun query read => ⟨?_, fun viewer named => ⟨?_, ?_⟩⟩⟩
  · obtain ⟨reply, refused⟩ := Site.exists_refused bad
    exact ⟨reply, refused, refused.status,
      Site.repliesAlone_of_respond (refused.respond_eq get path)⟩
  · intro token fault named given solid malformed
    have refused : Site.Refused feed r _ := .token named read given solid malformed
    exact Site.repliesAlone_of_respond (refused.respond_eq get path)
  · intro blank
    rw [Site.respond_of_read get path named read, Service.position_of_blank feed.decode blank]
  · intro token cursor given solid accepted
    rw [Site.respond_of_read get path named read, given,
      Service.position_of_not_blank feed solid, accepted]
    rfl

/-- A header that is a word, a field given twice, a token of one feed sent to another, and blanks
for a token. -/
theorem feed_requests_checked_of_four :
    let cached : Cache.Gateway := ⟨"memory", 5, 0, 2⟩
    let s : Site := ⟨⟨cached, ⟨9, 3⟩, .standard⟩, ⟨cached, ⟨9, 3⟩⟩⟩
    let word : Request :=
      ⟨"GET", "/feed/latest", none, [("X-Viewer-Id", bytes "seven")], []⟩
    let twice : Request := ⟨"GET", "/feed/following", some "limit=1&limit=2", [], []⟩
    let strange : Request :=
      ⟨"GET", "/feed/popular", some "cursor=eyJiZWZvcmVfdXMiOjUwMDAwMDAsImlkIjo3fQ",
        [("x-viewer-id", bytes " 7")], []⟩
    let blank : Request := ⟨"GET", "/feed/following", some "cursor=%20%E3%80%80&limit=3",
      [("x-viewer-id", bytes "7")], []⟩
    (∃ reply, reply.status = 400 ∧ s.RepliesAlone word reply) ∧
      (∃ reply, reply.status = 400 ∧ s.RepliesAlone twice reply) ∧
      s.RepliesAlone strange (.refused ⟨400, "invalid_cursor", "Invalid cursor",
        some "cursor sort value and identifier must be provided together"⟩) ∧
      s.respond blank = do
        return Site.ofPage (← s.feeds.following (some 3) none (.account 7)) := by
  intro cached s word twice strange blank
  refine ⟨?_, ?_, ?_, ?_⟩
  · have misnamed : word.Misnamed := Request.viewer?_eq_none_iff.mp (by decide +kernel)
    obtain ⟨reply, -, refused⟩ := (feed_requests_checked s .latest word rfl rfl).1 (.inl misnamed)
    exact ⟨reply, refused⟩
  · have unread : FeedQuery.ofQuery twice.query =
        .error "Failed to deserialize query string: duplicate field `limit`" := by
      decide +kernel
    obtain ⟨reply, -, refused⟩ :=
      (feed_requests_checked s .following twice rfl rfl).1 (.inr (.inl ⟨_, unread⟩))
    exact ⟨reply, refused⟩
  · have read : FeedQuery.ofQuery strange.query =
        .ok ⟨none, some "eyJiZWZvcmVfdXMiOjUwMDAwMDAsImlkIjo3fQ"⟩ := by
      decide +kernel
    have named : ¬ strange.Misnamed := by
      rw [← Request.viewer?_eq_none_iff]
      decide +kernel
    exact ((feed_requests_checked s .popular strange rfl rfl).2 _ read).1 _ .missingPair named rfl
      (by decide) (by decide +kernel)
  · have read : FeedQuery.ofQuery blank.query = .ok ⟨some 3, some " \u3000"⟩ := by
      decide +kernel
    have named : Caller.viewer? blank = some (.account 7) := by
      decide +kernel
    refine (((feed_requests_checked s .following blank rfl rfl).2 _ read).2 _ named).1 ?_
    rintro _ ⟨⟩
    decide

end Http

end ClipFeed
