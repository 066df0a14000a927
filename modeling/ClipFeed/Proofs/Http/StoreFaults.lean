import ClipFeed.Proofs.Http.Feeds
import ClipFeed.Proofs.Sql.Refused
import ClipFeed.Sql.Site
/-!
What a client learns of a refused statement. On every route but that of the probe the status and the
code of the reply follow from the code of the database alone, whichever statement was refused and
whatever its fault is called on the way.
-/

namespace ClipFeed

open Cache

namespace Sql

variable {α β ε : Type} {told : ServerError → α → Prop} {further : ServerError → β → Prop}

theorem serve_bind (i : String) (action : Action α) (f : α → Action β) :
    serve i (action >>= f) = serve i action >>= fun a => serve i (f a) :=
  Dialogue.refine_bind ..

private theorem serve_store (i : String) (call : Store.Call) :
    serve i (Action.store call) = Session.perform call :=
  Dialogue.bind_done _

private theorem serve_bind_of_done (i : String) {action : Action α} {f : α → Action β} {a : α}
    (silent : serve i action = .done a) : serve i (action >>= f) = serve i (f a) := by
  rw [serve_bind, silent]
  rfl

private theorem serve_write
    (i : String) (g : Gateway) (codec : Codec α) (key : Key) (v : α) (ttl : Span) :
    serve i (g.write codec key v ttl) = .done () := by
  rw [Gateway.write]
  cases codec.encode v <;> rfl

private theorem serve_computeAndFill (i : String) (g : Gateway) (codec : Codec α) (key : Key)
    (policy : Policy) (compute : Action (Except ε α)) :
    serve i (g.computeAndFill codec key policy compute) = serve i compute := by
  have timed : serve i (Gateway.timed compute) = serve i compute := by
    rw [Gateway.timed, serve_bind]
    exact Dialogue.bind_done _
  rw [Gateway.computeAndFill, serve_bind, timed]
  refine Eq.trans (congrArg (serve i compute).bind (funext fun o => ?_)) (Dialogue.bind_done _)
  cases o with
  | error failure => rfl
  | ok v => exact serve_bind_of_done i (serve_write i g codec key v policy.ttl)

/-- Where nothing is cached, to resolve is to compute. -/
theorem serve_resolve (i : String) (g : Gateway) (codec : Codec α) (key : Key) (policy : Policy)
    (compute : Action (Except ε α)) :
    serve i (g.resolve codec key policy compute) = serve i compute := by
  -- both lookups miss, and the lock is granted
  have filled : serve i (g.resolve codec key policy compute) =
      serve i (do
        let o ← g.computeAndFill codec key policy compute
        g.release ⟨key.lockName, ""⟩
        return o) := rfl
  rw [filled, serve_bind, serve_computeAndFill]
  exact Dialogue.bind_done _

/-- An action that heeds refusals when it is served by the database alone. -/
def Heeded (told : ServerError → α → Prop) (action : Action α) : Prop :=
  ∀ i, (serve i action).Heeds told none

theorem heeded_done (a : α) : Heeded told (.done a) :=
  fun _ => Session.heeds_done_none a

theorem heeded_store (call : Store.Call) : Heeded Faulted (Action.store call) := by
  intro i
  rw [serve_store]
  exact Session.heeds_perform call

theorem Heeded.resolve {told : ServerError → Except ε α → Prop} {compute : Action (Except ε α)}
    (heeded : Heeded told compute) (g : Gateway) (codec : Codec α) (key : Key) (policy : Policy) :
    Heeded told (g.resolve codec key policy compute) := by
  intro i
  rw [serve_resolve]
  exact heeded i

/-- What goes on behind a refusal asks the database nothing. -/
theorem Heeded.bind {action : Action α} {f : α → Action β} (first : Heeded told action)
    (passed : ∀ a, Heeded further (f a))
    (failed : ∀ e a, told e a → ∃ b, further e b ∧ ∀ i, serve i (f a) = .done b) :
    Heeded further (action >>= f) := by
  intro i
  rw [serve_bind]
  refine (first i).bind (fun a => passed a i) fun e a known => ?_
  obtain ⟨b, tells, silent⟩ := failed e a known
  rw [silent i]
  exact Session.heeds_done tells

theorem Heeded.map {action : Action α} {f : α → β} (first : Heeded told action)
    (tells : ∀ e a, told e a → further e (f a)) : Heeded further (do return f (← action)) :=
  first.bind (fun _ => heeded_done _) fun e a known => ⟨f a, tells e a known, fun _ => rfl⟩

end Sql

namespace Http

open Sql

/-- Refusals that a client does not tell apart by status and code. -/
def Refusal.Alike (first second : Refusal) : Prop :=
  first.status = second.status ∧ first.code = second.code

/-- A refusal that tells of a refused statement as its fault does. -/
def Tells (e : ServerError) (refusal : Refusal) : Prop :=
  refusal.Alike (.ofStore (Sql.Failure.server e).toStore)

/-- An outcome that fails with something that is called after a refused statement. -/
def FailsAs {φ α : Type} (name : φ → Refusal) (e : ServerError) (o : Except φ α) : Prop :=
  ∃ failure, o = .error failure ∧ Tells e (name failure)

theorem alike_ofStore (fault : Store.Fault) :
    (Refusal.ofVideo (.ofStore fault)).Alike (.ofStore fault) := by
  cases fault <;> exact ⟨rfl, rfl⟩

private theorem alike_ofLike (fault : Store.Fault) :
    (Refusal.ofVideo (.ofLike fault)).Alike (.ofStore fault) := by
  cases fault <;> exact ⟨rfl, rfl⟩

private theorem alike_ofUnlike (fault : Store.Fault) :
    (Refusal.ofVideo (.ofUnlike fault)).Alike (.ofStore fault) := by
  cases fault <;> exact ⟨rfl, rfl⟩

section

open Feed

private theorem heeded_likedBy (viewer : Viewer) (videos : List Video) :
    Heeded Faulted (Service.likedBy viewer videos) := by
  unfold Service.likedBy
  split
  · split
    · exact heeded_done _
    · exact heeded_store (.likedAmong _ _)
  · exact heeded_done _

private theorem heeded_enrich
    {γ : Type} (page : Except Store.Fault (Page Video γ)) (viewer : Viewer)
    (encode : γ → String) : Heeded (FailsAs .ofFeed) (Service.enrich page viewer encode) := by
  cases page with
  | error fault => exact heeded_done _
  | ok page =>
    refine (heeded_likedBy viewer page.items).bind ?_ ?_
    · rintro (fault | liked) <;> exact heeded_done _
    · rintro e _ rfl
      exact ⟨_, ⟨_, rfl, rfl, rfl⟩, fun _ => rfl⟩

private theorem heeded_enriched {γ : Type} {select : Action (Except Store.Fault (Page Video γ))}
    (selects : Heeded Faulted select) (viewer : Viewer) (encode : γ → String) :
    Heeded (FailsAs .ofFeed) (select >>= (Service.enrich · viewer encode)) := by
  refine selects.bind (fun page => heeded_enrich page viewer encode) ?_
  rintro e _ rfl
  exact ⟨_, ⟨_, rfl, rfl, rfl⟩, fun _ => rfl⟩

private theorem heeded_selected {β : Type} (call : Store.Call) (make : call.Answer → β) :
    Heeded Faulted (do return (← Action.store call).map make) := by
  apply (heeded_store call).map
  rintro e _ rfl
  rfl

private theorem heeded_page (s : Service) (feed : Feed.Kind) (limit : Option UInt32)
    (cursor : Option feed.Cursor) (viewer : Viewer) :
    Heeded (FailsAs .ofFeed) (s.page feed limit cursor viewer) := by
  have latest (request : PageRequest LatestCursor) :
      Heeded Faulted (Service.selectLatest request) := heeded_selected (.listLatest request) _
  have popular (request : PageRequest PopularCursor) :
      Heeded Faulted (Service.selectPopular request) := heeded_selected (.listPopular request) _
  have following (follower : Int64) (request : PageRequest LatestCursor) :
      Heeded Faulted (Service.selectFollowing follower request) :=
    heeded_selected (.listFollowing follower request) _
  cases feed with
  | latest =>
    cases viewer with
    | anonymous => exact heeded_enriched ((latest _).resolve _ _ _ _) _ _
    | account id => exact heeded_enriched (latest _) _ _
  | popular => exact heeded_enriched ((popular _).resolve _ _ _ _) _ _
  | following =>
    cases viewer with
    | anonymous => exact heeded_enriched (latest _) _ _
    | account id => exact heeded_enriched ((following _ _).resolve _ _ _ _) _ _

private theorem heeded_pageFromToken (s : Service) (feed : Feed.Kind) (limit : Option UInt32)
    (token : Option String) (viewer : Viewer) :
    Heeded (FailsAs .ofFeed) (s.pageFromToken feed limit token viewer) := by
  rw [Service.pageFromToken_eq]
  split
  · exact heeded_page s feed limit _ viewer
  · exact heeded_done _

end

section

open Video

private theorem heeded_find (id : Int64) : Heeded (FailsAs .ofVideo) (Service.find id) := by
  refine (heeded_store _).bind ?_ ?_
  · rintro (fault | _ | v) <;> exact heeded_done _
  · rintro e _ rfl
    exact ⟨_, ⟨_, rfl, alike_ofStore _⟩, fun _ => rfl⟩

private theorem heeded_publish (submission : Submission) :
    Heeded (FailsAs .ofVideo) (Service.publish submission) := by
  unfold Service.publish
  split
  · exact heeded_done _
  · refine (heeded_store _).bind ?_ ?_
    · rintro (fault | v) <;> exact heeded_done _
    · rintro e _ rfl
      exact ⟨_, ⟨_, rfl, alike_ofStore _⟩, fun _ => rfl⟩

/-- To evict a video asks the database nothing. -/
theorem serve_settle (i : String) (s : Service) (id : Int64) (o : Except Video.Failure Unit) :
    serve i (s.settle id o) = .done o := by
  cases o <;> rfl

/-- A change of a stored video, whatever its faults are called. -/
theorem heeded_change (s : Service) (id : Int64) {call : Action (Except Store.Fault Unit)}
    {name : Store.Fault → Video.Failure} (asks : Heeded Faulted call)
    (alike : ∀ fault, (Refusal.ofVideo (name fault)).Alike (.ofStore fault)) :
    Heeded (FailsAs .ofVideo) (do s.settle id ((← call).mapError name)) := by
  refine asks.bind ?_ ?_
  · intro o i
    rw [serve_settle]
    exact Session.heeds_done_none _
  · rintro e _ rfl
    exact ⟨_, ⟨_, rfl, alike _⟩, fun i => serve_settle i s id _⟩

private theorem heeded_delete (s : Service) (id requester : Int64) :
    Heeded (FailsAs .ofVideo) (s.delete id requester) := by
  refine (heeded_find id).bind ?_ ?_
  · rintro (failure | v)
    · exact heeded_done _
    · simp only
      split
      · exact heeded_change s id (heeded_store (.delete id)) alike_ofStore
      · exact heeded_done _
  · rintro e _ ⟨failure, rfl, tells⟩
    exact ⟨_, ⟨failure, rfl, tells⟩, fun _ => rfl⟩

end

/-- A reply that refuses for a refused statement. -/
def RefusedFor (e : ServerError) (reply : Reply) : Prop :=
  ∃ refusal, Tells e refusal ∧ reply = .refused refusal

/-- The reply to a request that is refused for a refused statement. If only the head is asked for,
the body is left out. -/
def RepliedFor (r : Request) (e : ServerError) (reply : Reply) : Prop :=
  ∃ full, RefusedFor e full ∧ reply = if r.method = "HEAD" then full.withoutBody else full

namespace Site

variable {s : Site} {r : Request}

private theorem heeded_feed (r : Request) (s : Feed.Service) (feed : Feed.Kind) :
    Heeded RefusedFor (Site.feed r (s.pageFromToken feed)) := by
  unfold Site.feed
  split
  · exact heeded_done _
  · split
    · exact heeded_done _
    · apply (heeded_pageFromToken s feed _ _ _).map
      rintro e _ ⟨failure, rfl, tells⟩
      exact ⟨_, tells, rfl⟩

private theorem heeded_ofVideo {status failing : Nat} {action : Action (Except Video.Failure Video)}
    (heeded : Heeded (FailsAs .ofVideo) action) :
    Heeded RefusedFor (do return ofVideo status failing (← action)) := by
  apply heeded.map
  rintro e _ ⟨failure, rfl, tells⟩
  exact ⟨_, tells, rfl⟩

private theorem heeded_ofChange {action : Action (Except Video.Failure Unit)}
    (heeded : Heeded (FailsAs .ofVideo) action) :
    Heeded RefusedFor (do return ofChange (← action)) := by
  apply heeded.map
  rintro e _ ⟨failure, rfl, tells⟩
  exact ⟨_, tells, rfl⟩

private theorem heeded_named {segment : String} {answer : Int64 → Action Reply}
    (names : ∀ id, Heeded RefusedFor (answer id)) : Heeded RefusedFor (named segment answer) := by
  unfold named
  split
  · exact heeded_done _
  · exact names _

private theorem heeded_acting {answer : Int64 → Action Reply}
    (acts : ∀ account, Heeded RefusedFor (answer account)) :
    Heeded RefusedFor (acting r answer) := by
  unfold acting
  split
  · exact heeded_done _
  · exact acts _

private theorem heeded_publication (author : Int64) : Heeded RefusedFor (publish r author) := by
  unfold publish
  split
  · exact heeded_done _
  · next submission _ =>
    have published := heeded_publish submission
    -- only that refusals are heeded matters, not how the submission is checked
    generalize Video.Service.publish submission = publication at published ⊢
    exact heeded_ofVideo published

private theorem heeded_serve (s : Site) (r : Request) {route : Route} (apart : route ≠ .health) :
    Heeded RefusedFor (s.serve r route) := by
  cases route with
  | latest => exact heeded_feed r s.feeds .latest
  | popular => exact heeded_feed r s.feeds .popular
  | following => exact heeded_feed r s.feeds .following
  | videos => exact heeded_acting heeded_publication
  | video segment =>
    rw [serve]
    split
    · exact heeded_acting fun account => heeded_named fun id =>
        heeded_ofChange (heeded_delete s.videos id account)
    · exact heeded_named fun id => heeded_ofVideo ((heeded_find id).resolve _ _ _ _)
  | like segment =>
    refine heeded_acting fun account => heeded_named fun id => ?_
    split
    · exact heeded_ofChange
        (heeded_change s.videos id (heeded_store (.unlike id account)) alike_ofUnlike)
    · exact heeded_ofChange
        (heeded_change s.videos id (heeded_store (.like id account)) alike_ofLike)
  | health => exact absurd rfl apart

private theorem heeded_respond
    (s : Site) (r : Request) (apart : Route.ofPath? r.path ≠ some .health) :
    Heeded (RepliedFor r) (s.respond r) := by
  rw [respond]
  cases path : Route.ofPath? r.path with
  | none => exact heeded_done _
  | some route =>
    rw [path] at apart
    by_cases offered : route.methods.contains r.method
    · simp only [offered, if_true]
      apply (heeded_serve s r fun health => apart (congrArg some health)).map
      exact fun e full refused => ⟨full, refused, rfl⟩
    · simp only [offered]
      exact heeded_done _

/-- To identify and to log a request asks the database nothing. -/
theorem heeded_exchange (s : Site) (r : Request) (apart : Route.ofPath? r.path ≠ some .health) :
    Heeded (fun e (x : Exchange) => RepliedFor r e x.reply) (s.exchange r) := by
  have identified (id : String) :
      Heeded (fun e (x : Exchange) => RepliedFor r e x.reply) (s.answered r id) := by
    refine (heeded_respond s r apart).bind ?_ ?_
    · exact fun reply i => Session.heeds_done_none _
    · exact fun e reply replied => ⟨_, replied, fun _ => rfl⟩
  rw [exchange_eq]
  split
  · exact identified _
  · exact fun i => identified i i

end Site

/-- The reply to a request that is refused with a status and a code. Its body is the envelope of the
code, unless only the head is asked for, and the report that is kept for the log has the status and
one message: the code, and behind it the hint or else the message of the envelope. -/
def Reply.Refuses (reply : Reply) (r : Request) (status : Nat) (code : String) : Prop :=
  ∃ message : String, ∃ hint : Option String, reply.status = status ∧
    reply.contentType = some "application/json" ∧
    reply.body = (if r.method = "HEAD" then []
      else (Refusal.body ⟨status, code, message, hint⟩).print) ∧
    reply.report = some ⟨"infra::http", status, [code ++ ": " ++ hint.getD message]⟩

theorem RepliedFor.refuses {r : Request} {e : ServerError} {reply : Reply} {fault : Store.Fault}
    (replied : RepliedFor r e reply) (named : (Sql.Failure.server e).toStore = fault) :
    reply.Refuses r (Refusal.ofStore fault).status (Refusal.ofStore fault).code := by
  obtain ⟨_, ⟨⟨status, code, message, hint⟩, ⟨sameStatus, sameCode⟩, rfl⟩, rfl⟩ := replied
  rw [named] at sameStatus sameCode
  rw [← sameStatus, ← sameCode]
  refine ⟨message, hint, ?_⟩
  split
  · exact ⟨rfl, rfl, rfl, rfl⟩
  · exact ⟨rfl, rfl, rfl, rfl⟩

/-- When the database refuses a statement for the first time, be it a bound of a transaction,
nothing is sent behind it but a `ROLLBACK`, whose own reply nobody waits for. Whatever the request
and the statement, the code of the database decides the status and the code of the reply. -/
theorem refused_statements_told {σ : Type} (s : Site) (r : Request) (requestId : String)
    (database : σ → (q : Statement) → Sql.Reply q × σ) (start : σ) {before after : List Sent}
    {q : Statement} {e : ServerError} (apart : Route.ofPath? r.path ≠ some .health)
    (sent : (Sql.serve requestId (s.exchange r)).transcript database start =
      before ++ ⟨q, .error e⟩ :: after)
    (first : ∀ x ∈ before, ∃ outcome, x.2 = .ok outcome) (awaited : q ≠ .rollback) :
    let reply := (Dialogue.run database start (Sql.serve requestId (s.exchange r))).1.reply
    (∀ x ∈ after, x.1 = .rollback) ∧
    (e.code = some "23505" → reply.Refuses r 409 "duplicate") ∧
    (e.code = some "23503" ∨ e.code = some "22P02" → reply.Refuses r 400 "invalid_input") ∧
    (e.code = some "57014" → reply.Refuses r 503 "db_timeout") ∧
    (∀ rest, e.code = some ("23" ++ rest) → rest ≠ "505" → rest ≠ "503" →
      reply.Refuses r 409 "integrity_error") ∧
    ((∀ rest, e.code ≠ some ("23" ++ rest)) → e.code ≠ some "22P02" → e.code ≠ some "57014" →
      reply.Refuses r 500 "repo_error") := by
  intro reply
  have ended := Dialogue.ends_transcript database start (Sql.serve requestId (s.exchange r))
  rw [sent] at ended
  obtain ⟨undone, replied⟩ :=
    (Site.heeded_exchange s r apart requestId).of_ends first awaited ended
  refine ⟨undone, ?_, ?_, ?_, ?_, ?_⟩
  · exact fun unique => replied.refuses (Sql.Failure.toStore_of_unique unique)
  · rintro (foreign | representation)
    · exact replied.refuses (Sql.Failure.toStore_of_foreign foreign)
    · exact replied.refuses (Sql.Failure.toStore_of_representation representation)
  · exact fun canceled => replied.refuses (Sql.Failure.toStore_of_canceled canceled)
  · exact fun rest violated unique foreign =>
      replied.refuses (Sql.Failure.toStore_of_violated violated unique foreign)
  · exact fun apart readable running =>
      replied.refuses (Sql.Failure.toStore_of_other apart readable running)

private theorem ofPath?_like_five : Route.ofPath? "/videos/5/like" = some (.like "5") := by
  have pieces : "/videos/5/like".splitOn "/" = _ := Text.splitOn_singleton _ '/'
  rw [Route.ofPath?, pieces]
  rfl

/-- The commit of a like is refused for a violated constraint. -/
theorem refused_statements_told_of_commit :
    let cached : Gateway := ⟨"disabled", 5, 0, 2⟩
    let s : Site := ⟨⟨cached, ⟨9, 3⟩, .standard⟩, ⟨cached, ⟨9, 3⟩⟩⟩
    let like : Request :=
      ⟨"POST", "/videos/5/like", none, [("x-viewer-id", Text.bytes "7")], []⟩
    let deferred : ServerError := ⟨some "23514", "likes_count", none⟩
    let script : Script := ⟨[.ok ⟨[[.integer 5]], 0⟩], [("COMMIT", .error deferred)]⟩
    let served := Sql.serve "a" (s.exchange like)
    (Dialogue.transcript Script.perform script served).map (·.1) =
      [.begin, .query (.lock 5), .query (.insertLike 5 7), .query (.countLike 5), .commit,
        .rollback] ∧
      (Dialogue.run Script.perform script served).1.reply.Refuses like 409 "integrity_error" := by
  intro cached s like deferred script served
  have routed : s.respond like = s.serve like (.like "5") :=
    s.respond_eq ofPath?_like_five (by simp [Route.methods, like]) (by simp [like])
  have sent : Dialogue.transcript Script.perform script served =
      [⟨.begin, .ok .empty⟩, ⟨.query (.lock 5), .ok ⟨[[.integer 5]], 0⟩⟩,
        ⟨.query (.insertLike 5 7), .ok .empty⟩, ⟨.query (.countLike 5), .ok .empty⟩] ++
      ⟨.commit, .error deferred⟩ :: [⟨.rollback, .ok .empty⟩] := by
    simp only [served, Site.exchange, routed]
    decide +kernel
  have apart : Route.ofPath? like.path ≠ some .health := by
    rw [ofPath?_like_five]
    decide
  have told :=
    refused_statements_told s like "a" Script.perform script apart sent (by simp) (by decide)
  exact ⟨by rw [sent]; rfl, told.2.2.2.2.1 "514" rfl (by decide) (by decide)⟩

/-- Nobody hears of a refused `ROLLBACK`: a like of a video that is missing ends as if it were
granted. And a request for the head gets no envelope. -/
theorem refused_statements_untold :
    let cached : Gateway := ⟨"disabled", 5, 0, 2⟩
    let s : Site := ⟨⟨cached, ⟨9, 3⟩, .standard⟩, ⟨cached, ⟨9, 3⟩⟩⟩
    let like : Request :=
      ⟨"POST", "/videos/5/like", none, [("x-viewer-id", Text.bytes "7")], []⟩
    let unwelcome : ServerError := ⟨some "23505", "no transaction", none⟩
    let missing : Script := ⟨[.ok ⟨[], 0⟩], [("ROLLBACK", .error unwelcome)]⟩
    let liked := Sql.serve "a" (s.exchange like)
    let head : Request := ⟨"HEAD", "/feed/latest", none, [], []⟩
    let canceled : ServerError := ⟨some "57014", "canceling statement due to user request", none⟩
    let late : Script := ⟨[.error canceled], []⟩
    let asked := Sql.serve "a" (s.exchange head)
    (Dialogue.transcript Script.perform missing liked =
        [⟨.begin, .ok .empty⟩, ⟨.query (.lock 5), .ok ⟨[], 0⟩⟩, ⟨.rollback, .error unwelcome⟩] ∧
      (Dialogue.run Script.perform missing liked).1.reply.status = 404) ∧
    Dialogue.transcript Script.perform late asked =
        [⟨.query (.latest ⟨10, none⟩), .error canceled⟩] ∧
      (Dialogue.run Script.perform late asked).1.reply.status = 503 ∧
      (Dialogue.run Script.perform late asked).1.reply.body = [] := by
  intro cached s like unwelcome missing liked head canceled late asked
  have likes : s.respond like = s.serve like (.like "5") :=
    s.respond_eq ofPath?_like_five (by simp [Route.methods, like]) (by simp [like])
  have heads : s.respond head = s.serve head .latest >>= fun reply => .done reply.withoutBody := by
    have route : Route.ofPath? "/feed/latest" = some .latest := ofPath?_feedPath .latest
    rw [Site.respond, route]
    rfl
  simp only [liked, asked, Site.exchange, likes, heads]
  refine ⟨⟨?_, ?_⟩, ?_, ?_, ?_⟩ <;> decide +kernel

end Http

end ClipFeed
