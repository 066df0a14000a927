import ClipFeed.Proofs.Feed.Isolation
import ClipFeed.Proofs.Http.Feeds
import ClipFeed.Proofs.Store.Authors
/-!
Changes on behalf of accounts. Whatever a request has the store change, it changes for the account
that its header names, and a video is removed for its author alone, whoever else is served
meanwhile.
-/

namespace ClipFeed.Http

open Cache Text

namespace Request

variable {r : Request} {id account : Int64}

/-- The account on whose behalf a request acts: its header holds the number, which is positive. -/
def ActsFor (r : Request) (account : Int64) : Prop :=
  r.Names account ∧ 0 < account

def Is (r : Request) (method : String) (route : Route) : Prop :=
  r.method = method ∧ Route.ofPath? r.path = some route

def Publishes (r : Request) : Prop :=
  r.Is "POST" .videos

def Deletes (r : Request) (id : Int64) : Prop :=
  ∃ segment, r.Is "DELETE" (.video segment) ∧ Route.videoId segment = .ok id

def Likes (r : Request) (id : Int64) : Prop :=
  ∃ segment, r.Is "POST" (.like segment) ∧ Route.videoId segment = .ok id

def Unlikes (r : Request) (id : Int64) : Prop :=
  ∃ segment, r.Is "DELETE" (.like segment) ∧ Route.videoId segment = .ok id

/-- A request to one of the routes that act on behalf of an account. -/
inductive Changes (r : Request) : Prop where
  | publish (is : r.Is "POST" .videos)
  | delete (segment : String) (is : r.Is "DELETE" (.video segment))
  | like (segment : String) (is : r.Is "POST" (.like segment))
  | unlike (segment : String) (is : r.Is "DELETE" (.like segment))

end Request

/-- The calls that a request may make, given what it was told. Calls that only read are free. -/
def Mandate (r : Request) (told : List ClipFeed.Exchange) : Store.Call → Prop
  | .create submission => r.Publishes ∧ r.ActsFor submission.authorId
  | .delete id => r.Deletes id ∧
      ∃ v, ⟨.store (.find id), .ok (some v)⟩ ∈ told ∧ r.ActsFor v.authorId
  | .like id account => r.Likes id ∧ r.ActsFor account
  | .unlike id account => r.Unlikes id ∧ r.ActsFor account
  | _ => True

/-- The contract of a request, whose diary is what it was told. -/
def mandated (r : Request) : Contract Effect Effect.Answer (List ClipFeed.Exchange) where
  asks told
    | .store call => Mandate r told call
    | _ => True
  hears _ _ _ := True
  write told q a := told ++ [⟨q, a⟩]

/-- What changes nothing in the store. -/
def Reads : Effect → Prop
  | .store (.create _) => False
  | .store (.delete _) => False
  | .store (.like ..) => False
  | .store (.unlike ..) => False
  | _ => True

private theorem asks_of_reads
    {r : Request} (told : List ClipFeed.Exchange) (q : Effect) (reads : Reads q) :
    (mandated r).asks told q := by
  cases q with
  | store call =>
    cases call with
    | create => exact reads.elim
    | delete => exact reads.elim
    | like => exact reads.elim
    | unlike => exact reads.elim
    | _ => trivial
  | _ => trivial

private theorem reads_of_free (q : Effect) (other : ∀ call, q ≠ .store call) : Reads q := by
  cases q with
  | store call => exact absurd rfl (other call)
  | _ => trivial

private theorem reads_resolve
    {α ε : Type} (g : Gateway) (codec : Codec α) (key : Key) (policy : Policy)
    {compute : Action (Except ε α)} (reads : compute.Asks Reads) :
    (g.resolve codec key policy compute).Asks Reads :=
  g.asks_resolve_of_free reads_of_free codec key policy reads

section

variable {ok : Effect → Prop} {s : Feed.Service}
  (may : ∀ call, Reads (.store call) → ok (.store call))
  (resolves : ∀ {α ε : Type} (codec : Codec α) (key : Key) {compute : Action (Except ε α)},
    compute.Asks ok → (s.gateway.resolve codec key s.policy compute).Asks ok)

include may resolves

/-- Whatever is asked for a page reads the store, or looks for what is read in the cache. -/
theorem asks_page (feed : Feed.Kind) (limit : Option UInt32) (cursor : Option feed.Cursor)
    (viewer : Viewer) : (s.page feed limit cursor viewer).Asks ok := by
  have enriched {γ : Type} {page : Action (Except Store.Fault (Feed.Page Video γ))}
      (reads : page.Asks ok) (encode : γ → String) :
      (page >>= (Feed.Service.enrich · viewer encode)).Asks ok :=
    reads.bind fun page => Feed.Session.asks_enrich (fun _ _ => may _ trivial) page viewer encode
  have latest (request : Feed.PageRequest Feed.LatestCursor) :
      (Feed.Service.selectLatest request).Asks ok :=
    Feed.Session.asks_listing _ (may _ trivial)
  cases feed with
  | latest =>
    cases viewer with
    | anonymous => exact enriched (resolves _ _ (latest _)) _
    | account id => exact enriched (latest _) _
  | popular =>
    exact enriched (resolves _ _ (Feed.Session.asks_listing (.listPopular _) (may _ trivial))) _
  | following =>
    cases viewer with
    | anonymous => exact enriched (latest _) _
    | account id =>
      exact enriched (resolves _ _ (Feed.Session.asks_listing (.listFollowing ..)
        (may _ trivial))) _

theorem asks_feed (r : Request) (feed : Feed.Kind) :
    (Site.feed r (s.pageFromToken feed)).Asks ok := by
  unfold Site.feed
  split
  · trivial
  · split
    · trivial
    · rw [Feed.Service.pageFromToken_eq]
      split
      · exact (asks_page may resolves feed _ _ _).bind fun _ => trivial
      · trivial

end

theorem asks_find {ok : Effect → Prop} {id : Int64} (may : ok (.store (.find id))) :
    (Video.Service.find id).Asks ok := by
  refine (Dialogue.asks_request may).bind fun found => ?_
  rcases found with fault | _ | v <;> trivial

/-- Behind a change the entry of the video is evicted at most. -/
theorem asks_settle {ok : Effect → Prop} {s : Video.Service} {id : Int64}
    (evicts : (s.gateway.evict (.video id)).Asks ok) (outcome : Except Video.Failure Unit) :
    (s.settle id outcome).Asks ok := by
  cases outcome with
  | error failure => trivial
  | ok made => exact evicts.bind fun _ => trivial

theorem reads_settle (s : Video.Service) (id : Int64) (outcome : Except Video.Failure Unit) :
    (s.settle id outcome).Asks Reads := by
  have noted (q : Effect) (noting : Noting q) : Reads q := by
    refine reads_of_free q ?_
    rintro call rfl
    exact noting
  exact asks_settle (s.gateway.asks_evict noted trivial) outcome

private theorem reads_feed (r : Request) {s : Feed.Service} (feed : Feed.Kind) :
    (Site.feed r (s.pageFromToken feed)).Asks Reads :=
  asks_feed (fun _ => id) (fun codec key _ => reads_resolve s.gateway codec key s.policy) r feed

private theorem author_of_read {author : Int64} {r : Request} {submission : Submission}
    (read : SubmissionBody.read author r = .ok submission) : submission.authorId = author := by
  unfold SubmissionBody.read at read
  split at read
  · split at read
    · obtain rfl := Except.ok.inj read
      rfl
    · cases read
  · cases read

private theorem author_of_validate {submission valid : Submission}
    (validated : submission.validate = .ok valid) : valid.authorId = submission.authorId := by
  simp only [Submission.validate, bind, Except.bind] at validated
  split at validated
  · cases validated
  · split at validated
    · cases validated
    · split at validated
      · cases validated
      · split at validated
        · cases validated
        · obtain rfl := Except.ok.inj validated
          rfl

/-- An action that keeps to the mandate of a request. -/
def Mandated (r : Request) {α : Type} (action : Action α) : Prop :=
  ∀ told, action.Meets (mandated r) (fun _ _ => True) told

section

variable {r : Request} {α β : Type}

theorem mandated_of_reads {action : Action α} (reads : action.Asks Reads) : Mandated r action :=
  fun told => reads.meets asks_of_reads told

theorem Mandated.bind {first : Action α} {second : α → Action β} (before : Mandated r first)
    (behind : ∀ a, Mandated r (second a)) : Mandated r (first >>= second) :=
  fun told => (before told).bind fun told a _ => behind a told

theorem mandated_store {call : Store.Call}
    {next : Except Store.Fault call.Answer → Action α} (may : ∀ told, Mandate r told call)
    (rest : ∀ a, Mandated r (next a)) : Mandated r (Action.store call >>= next) :=
  fun told => ⟨may told, fun a _ => rest a _⟩

private theorem mandated_acting {answer : Int64 → Action Reply}
    (acts : ∀ account, r.ActsFor account → Mandated r (answer account)) :
    Mandated r (Site.acting r answer) := by
  unfold Site.acting
  split
  · exact fun _ => trivial
  · next account acting => exact acts account (Caller.accountOf_eq_ok_iff.mp acting)

private theorem mandated_named {segment : String} {answer : Int64 → Action Reply}
    (names : ∀ id, Route.videoId segment = .ok id → Mandated r (answer id)) :
    Mandated r (Site.named segment answer) := by
  unfold Site.named
  split
  · exact fun _ => trivial
  · next id named => exact names id named

private theorem mandated_publish
    {account : Int64} (publishes : r.Publishes) (acts : r.ActsFor account) :
    Mandated r (Site.publish r account) := by
  unfold Site.publish
  split
  · exact fun _ => trivial
  · next submission read =>
    refine Mandated.bind ?_ fun _ _ => trivial
    unfold Video.Service.publish
    split
    · exact fun _ => trivial
    · next valid validated =>
      have author : valid.authorId = account :=
        (author_of_validate validated).trans (author_of_read read)
      refine mandated_store (fun told => ⟨publishes, author ▸ acts⟩) fun created => ?_
      cases created with
      | error fault => exact fun _ => trivial
      | ok v => exact fun _ => ⟨trivial, fun _ _ => trivial⟩

/-- A deletion is asked for only once the video is found to have the author who asks. -/
theorem mandated_delete (s : Video.Service) {id account : Int64} (deletes : r.Deletes id)
    (acts : r.ActsFor account) : Mandated r (s.delete id account) := by
  intro told
  refine ⟨trivial, fun found _ => ?_⟩
  rcases found with fault | _ | v
  · trivial
  · trivial
  -- from here on the diary says whose video was found
  · have judged : Dialogue.Meets (mandated r) (fun _ _ => True)
        (told ++ [⟨.store (.find id), .ok (some v)⟩])
        (if v.authorId = account then (do
          s.settle id ((← Action.store (.delete id)).mapError .ofStore))
        else return .error .forbidden) := by
      split
      · next own =>
        have may : Mandate r (told ++ [⟨.store (.find id), .ok (some v)⟩]) (.delete id) :=
          ⟨deletes, v, List.mem_concat_self, own ▸ acts⟩
        exact ⟨may, fun _ _ => mandated_of_reads (reads_settle s id _) _⟩
      · trivial
    exact judged

private theorem mandated_like (s : Video.Service) {id account : Int64} (likes : r.Likes id)
    (acts : r.ActsFor account) : Mandated r (s.like id account) :=
  mandated_store (fun _ => ⟨likes, acts⟩) fun _ => mandated_of_reads (reads_settle s id _)

private theorem mandated_unlike (s : Video.Service) {id account : Int64} (unlikes : r.Unlikes id)
    (acts : r.ActsFor account) : Mandated r (s.unlike id account) :=
  mandated_store (fun _ => ⟨unlikes, acts⟩) fun _ => mandated_of_reads (reads_settle s id _)

private theorem mandated_serve (s : Site) {route : Route} (path : Route.ofPath? r.path = some route)
    (offered : r.method ∈ route.methods) : Mandated r (s.serve r route) := by
  cases route with
  | latest => exact mandated_of_reads (reads_feed r .latest)
  | popular => exact mandated_of_reads (reads_feed r .popular)
  | following => exact mandated_of_reads (reads_feed r .following)
  | videos =>
    have post : r.method = "POST" := List.mem_singleton.mp offered
    exact mandated_acting fun account acts => mandated_publish ⟨post, path⟩ acts
  | video segment =>
    by_cases delete : r.method = "DELETE"
    · simp only [Site.serve, if_pos delete]
      refine mandated_acting fun account acts => mandated_named fun id named => ?_
      exact (mandated_delete s.videos ⟨segment, ⟨delete, path⟩, named⟩ acts).bind
        fun _ _ => trivial
    · simp only [Site.serve, if_neg delete]
      refine mandated_named fun id _ => mandated_of_reads ?_
      exact (reads_resolve _ _ _ _ (asks_find trivial)).bind fun _ => trivial
  | like segment =>
    refine mandated_acting fun account acts => mandated_named fun id named => ?_
    by_cases delete : r.method = "DELETE"
    · rw [if_pos delete]
      exact (mandated_unlike s.videos ⟨segment, ⟨delete, path⟩, named⟩ acts).bind
        fun _ _ => trivial
    · rw [if_neg delete]
      have post : r.method = "POST" := by
        rcases List.mem_cons.mp offered with post | other
        · exact post
        · exact absurd (List.mem_singleton.mp other) delete
      exact (mandated_like s.videos ⟨segment, ⟨post, path⟩, named⟩ acts).bind
        fun _ _ => trivial
  | health => exact mandated_of_reads ⟨trivial, fun _ _ => trivial⟩

private theorem mandated_respond (s : Site) (r : Request) : Mandated r (s.respond r) := by
  unfold Site.respond
  split
  · exact fun _ => trivial
  · next route path =>
    split
    · next offered =>
      have listed : r.method ∈ route.methods := by simpa using offered
      exact (mandated_serve s path listed).bind fun _ _ => trivial
    · exact fun _ => trivial

/-- Whatever is answered, an exchange keeps to the mandate of its request. -/
theorem mandated_exchange (s : Site) (r : Request) : Mandated r (s.exchange r) := by
  have incidental (told : List ClipFeed.Exchange) (q : Effect) (incidental : Incidental q) :
      (mandated r).asks told q := by
    cases q with
    | store call => exact incidental.elim
    | _ => trivial
  exact Site.meets_exchange incidental (fun _ _ _ _ => id) (mandated_respond s r)

end

theorem Request.Is.respond_eq {r : Request} {method : String} {route : Route}
    (is : r.Is method route) (s : Site) (offered : method ∈ route.methods)
    (whole : method ≠ "HEAD") : s.respond r = s.serve r route := by
  obtain ⟨rfl, path⟩ := is
  exact s.respond_eq path offered whole

/-- Whoever changes something without an account is refused for what the header says. -/
theorem respond_of_refused {s : Site} {r : Request} (changes : r.Changes) {refusal : Refusal}
    (refused : Caller.accountOf r = .error refusal) :
    s.respond r = .done (.refused refusal) := by
  have acting (answer : Int64 → Action Reply) :
      Site.acting r answer = .done (.refused refusal) := by
    rw [Site.acting, refused]
    rfl
  cases changes with
  | publish is =>
    rw [is.respond_eq s (by simp [Route.methods]) (by decide)]
    exact acting _
  | delete segment is =>
    rw [is.respond_eq s (by simp [Route.methods]) (by decide)]
    simp only [Site.serve, if_pos is.1]
    exact acting _
  | like segment is =>
    rw [is.respond_eq s (by simp [Route.methods]) (by decide)]
    exact acting _
  | unlike segment is =>
    rw [is.respond_eq s (by simp [Route.methods]) (by decide)]
    exact acting _

private theorem repliesAlone_of_refused
    {s : Site} {r : Request} (changes : r.Changes) {refusal : Refusal}
    (refused : Caller.accountOf r = .error refusal) : s.RepliesAlone r (.refused refusal) :=
  Site.repliesAlone_of_respond (respond_of_refused changes refused)

structure Reception (ι σ : Type) where
  store : σ
  told : ι → List ClipFeed.Exchange

namespace Reception

variable {ι σ : Type} [DecidableEq ι]

/-- Whether a question may be answered this way, and what the store is behind the answer. The store
answers its calls; everything else, the cache included, is answered in any way. -/
def Answers (store : Answering σ) (s : σ) : (q : Effect) → q.Answer → σ → Prop
  | .store call, a, s' => store s call a s'
  | _, _, s' => s' = s

def surroundings (store : Answering σ) : Surroundings ι Effect Effect.Answer (Reception ι σ) where
  answers s i q a s' := Answers store s.store q a s'.store ∧
    s'.told = Function.update s.told i (s.told i ++ [⟨q, a⟩])
  drifts _ _ := False

def opening (s : Site) (requests : ι → Request) (stored : σ) :
    Pool ι Effect Effect.Answer (fun _ => Exchange) (Reception ι σ) :=
  ⟨⟨stored, fun _ => []⟩, fun i => s.exchange (requests i)⟩

/-- The pool behind the answer to a caller. -/
def behind {α : ι → Type} (p : Pool ι Effect Effect.Answer α (Reception ι σ)) (i : ι) {q : Effect}
    (next : q.Answer → Dialogue Effect Effect.Answer (α i)) (a : q.Answer) (stored : σ) :
    Pool ι Effect Effect.Answer α (Reception ι σ) :=
  ⟨⟨stored, Function.update p.shared.told i (p.shared.told i ++ [⟨q, a⟩])⟩,
    Function.update p.callers i (next a)⟩

private theorem behind_callers
    {α : ι → Type} (p : Pool ι Effect Effect.Answer α (Reception ι σ)) (i : ι)
    {q : Effect} (next : q.Answer → Dialogue Effect Effect.Answer (α i)) (a : q.Answer)
    (stored : σ) : (behind p i next a stored).callers i = next a :=
  Function.update_self ..

private theorem step_behind {store : Answering σ} {α : ι → Type}
    {p : Pool ι Effect Effect.Answer α (Reception ι σ)} {i : ι} {q : Effect}
    {next : q.Answer → Dialogue Effect Effect.Answer (α i)} (asking : p.callers i = .ask q next)
    {a : q.Answer} {stored : σ} (answered : Answers store p.shared.store q a stored) :
    Pool.Step (surroundings store) p (behind p i next a stored) :=
  .answer i asking a ⟨answered, rfl⟩

/-- What was found was stored with its author at some earlier time. -/
def Informed (store : Answering σ) (author? : σ → Int64 → Option Int64) (s : Reception ι σ) :
    Prop :=
  ∀ i id v, ⟨.store (.find id), .ok (some v)⟩ ∈ s.told i →
    ∃ earlier, author? earlier id = some v.authorId ∧
      Relation.ReflTransGen (Store.Moves store) earlier s.store

variable {store : Answering σ} {author? : σ → Int64 → Option Int64}

private theorem moves_of_answers {s s' : σ} {q : Effect} {a : q.Answer}
    (answered : Answers store s q a s') : Relation.ReflTransGen (Store.Moves store) s s' := by
  cases q with
  | store call => exact .single ⟨call, a, answered⟩
  | _ =>
    obtain rfl := answered
    exact .refl

/-- Every caller keeps to its mandate, and what it finds was stored. -/
theorem keeps_mandates (authored : Store.Authored store author?) (requests : ι → Request) :
    Pool.Keeps (surroundings store) (Contract.each mandated)
      (fun (s : Reception ι σ) i => (requests i, s.told i)) (Informed store author?) where
  answer {s s' i q a} informed _ heard := by
    obtain ⟨answered, noted⟩ := heard
    have later := moves_of_answers answered
    refine ⟨trivial, ?_, ?_, ?_⟩
    · intro j id v member
      -- either it was told before, or this is the answer that tells it
      have known : ⟨.store (.find id), .ok (some v)⟩ ∈ s.told j ∨
          (⟨.store (.find id), .ok (some v)⟩ : ClipFeed.Exchange) = ⟨q, a⟩ := by
        rw [noted] at member
        by_cases same : j = i
        · subst same
          rw [Function.update_self] at member
          exact (List.mem_append.mp member).imp_right List.mem_singleton.mp
        · rw [Function.update_of_ne same] at member
          exact .inl member
      rcases known with before | now
      · obtain ⟨earlier, stored, reached⟩ := informed j id v before
        exact ⟨earlier, stored, reached.trans later⟩
      · cases now
        exact ⟨s.store, authored.found answered, later⟩
    · rw [noted, Function.update_self]
      rfl
    · intro j other
      rw [noted, Function.update_of_ne other]
  drift _ moved := moved.elim

omit [DecidableEq ι] in
theorem sound_opening (s : Site) (requests : ι → Request) (stored : σ) :
    (opening s requests stored).Sound (Contract.each mandated)
      (fun (s : Reception ι σ) i => (requests i, s.told i)) (Informed store author?)
      (fun _ _ _ => True) :=
  ⟨fun _ _ _ member => absurd member List.not_mem_nil,
    fun i => (mandated_exchange s (requests i) []).each⟩

variable {α : ι → Type} {promised : (i : ι) → Request × List ClipFeed.Exchange → α i → Prop}
  {requests : ι → Request} {p p' : Pool ι Effect Effect.Answer α (Reception ι σ)}

omit [DecidableEq ι] in
/-- A call that is asked for is within the mandate. -/
theorem mandate_of_question {i : ι} {call : Store.Call}
    {next : Except Store.Fault call.Answer → Dialogue Effect Effect.Answer (α i)}
    (sound : p.Sound (Contract.each mandated) (fun (s : Reception ι σ) i => (requests i, s.told i))
      (Informed store author?) promised)
    (asking : p.callers i = .ask (.store call) next) :
    Mandate (requests i) (p.shared.told i) call := by
  have meets := sound.2 i
  rw [asking] at meets
  exact meets.1

/-- A step that loses a video answers the request of its author to delete it. -/
theorem deletion_of_step (authored : Store.Authored store author?)
    (sound : p.Sound (Contract.each mandated) (fun (s : Reception ι σ) i => (requests i, s.told i))
      (Informed store author?) promised)
    (step : Pool.Step (surroundings store) p p') {id author : Int64}
    (stored : author? p.shared.store id = some author)
    (lost : author? p'.shared.store id = none) :
    ∃ i next a, p.callers i = .ask (.store (.delete id)) next ∧
      p'.callers = Function.update p.callers i (next a) ∧
      (requests i).Deletes id ∧ (requests i).ActsFor author := by
  cases step with
  | drift moved => exact moved.elim
  | @answer s s' callers i q next asking a heard =>
    obtain ⟨answered, -⟩ := heard
    cases q with
    | store call =>
      have present : author? s.store id ≠ none := by
        rw [stored]
        nofun
      obtain rfl := authored.deleted answered present lost
      obtain ⟨deletes, v, found, acts⟩ := mandate_of_question sound asking
      obtain ⟨earlier, before, reached⟩ := sound.1 i id v found
      have same := authored.author_eq reached before stored
      exact ⟨i, next, a, asking, rfl, deletes, same ▸ acts⟩
    | _ =>
      have same : s'.store = s.store := answered
      rw [same, stored] at lost
      cases lost

end Reception

/-- Whoever is served meanwhile, every call that a request makes is within its mandate: it is made
on the route of that call and on behalf of the account that the header names. A video is removed
only by the request for its deletion whose header names its author. On the routes that act on behalf
of an account a request without one is refused with status 401, and one whose header holds no number
with status 400; neither asks the store or the cache. -/
theorem writes_authorised {ι σ : Type} [DecidableEq ι] (s : Site) (requests : ι → Request)
    {store : Answering σ} {author? : σ → Int64 → Option Int64}
    (authored : Store.Authored store author?) (stored : σ) :
    (∀ p, Pool.Reaches (Reception.surroundings store) (Reception.opening s requests stored) p →
      (∀ i call, p.question? i = some (.store call) →
        Mandate (requests i) (p.shared.told i) call) ∧
      ∀ p' id author, Pool.Step (Reception.surroundings store) p p' →
        author? p.shared.store id = some author → author? p'.shared.store id = none →
        ∃ i next a, p.callers i = .ask (.store (.delete id)) next ∧
          p'.callers = Function.update p.callers i (next a) ∧
          (requests i).Deletes id ∧ (requests i).ActsFor author) ∧
    ∀ r : Request, r.Changes →
      ((r.Unnamed ∨ ∃ n, r.Names n ∧ ¬ 0 < n) →
        ∃ reply, reply.status = 401 ∧ s.RepliesAlone r reply) ∧
      (r.Misnamed → ∃ reply, reply.status = 400 ∧ s.RepliesAlone r reply) := by
  constructor
  · intro p reached
    have sound := (Reception.sound_opening s requests stored).reaches
      (Reception.keeps_mandates authored requests) reached
    constructor
    · intro i call asked
      obtain ⟨next, asking⟩ := Pool.question?_eq_some.mp asked
      exact Reception.mandate_of_question sound asking
    · intro p' id author step before lost
      exact Reception.deletion_of_step authored sound step before lost
  · intro r changes
    constructor
    · intro nobody
      have refused : Caller.accountOf r = .error .unauthorized := by
        rcases nobody with unnamed | ⟨n, names, low⟩
        · exact Caller.accountOf_of_unnamed unnamed
        · rw [Caller.accountOf_of_names names, if_neg low]
      exact ⟨_, rfl, repliesAlone_of_refused changes refused⟩
    · intro misnamed
      have refused := Caller.accountOf_of_misnamed misnamed
      exact ⟨_, rfl, repliesAlone_of_refused changes refused⟩

/-- An author deletes a video while somebody else waits to do so, and two requests for likes that
name nobody. -/
theorem writes_authorised_of_deletion :
    let v : Video := ⟨1, 7, "ada", "dawn", none, "/p/1", "/c/1", 0, 0, .utc 0⟩
    let cached : Gateway := ⟨"memory", 5, 0, 2⟩
    let s : Site := ⟨⟨cached, ⟨9, 3⟩, .standard⟩, ⟨cached, ⟨9, 3⟩⟩⟩
    let deletion (viewer : String) : Request :=
      ⟨"DELETE", "/videos/1", none, [("x-viewer-id", bytes viewer), ("x-request-id", [97])], []⟩
    let requests (own : Bool) : Request := if own then deletion " 7" else deletion "8"
    let like (headers : List (String × Bytes)) : Request :=
      ⟨"POST", "/videos/1/like", none, headers, []⟩
    let opening := Reception.opening s requests (⟨[v], [], []⟩ : Store.Memory)
    let store : Answering Store.Memory := Traffic.answering Store.Memory.deserted
    (∃ p p', Pool.Reaches (Reception.surroundings store) opening p ∧
      Pool.Step (Reception.surroundings store) p p' ∧ p.shared.store.author? 1 = some 7 ∧
      p'.shared.store.author? 1 = none ∧ ∃ i, (requests i).Deletes 1 ∧ (requests i).ActsFor 7) ∧
    (∃ reply, reply.status = 401 ∧ s.RepliesAlone (like []) reply) ∧
    ∃ reply, reply.status = 400 ∧ s.RepliesAlone (like [("x-viewer-id", bytes "me")]) reply := by
  intro v cached s deletion requests like opening store
  have route : Route.ofPath? "/videos/1" = some (.video "1") := by
    have pieces : "/videos/1".splitOn "/" = _ := splitOn_singleton _ '/'
    rw [Route.ofPath?, pieces]
    rfl
  have likes : Route.ofPath? "/videos/1/like" = some (.like "1") := by
    have pieces : "/videos/1/like".splitOn "/" = _ := splitOn_singleton _ '/'
    rw [Route.ofPath?, pieces]
    rfl
  have asks : ∃ next, s.exchange (requests true) = Dialogue.ask (.store (.find 1)) next ∧
      ∃ next', next (.ok (some v)) = Dialogue.ask (.store (.delete 1)) next' := by
    have named : Exchange.forwardedId? (requests true) = some "a" := by decide +kernel
    have account : Caller.accountOf (requests true) = .ok 7 := by decide +kernel
    have video : Route.videoId "1" = .ok 1 := by decide +kernel
    have is : (requests true).Is "DELETE" (.video "1") := ⟨rfl, route⟩
    rw [s.exchange_eq, named]
    simp only [Site.answered, is.respond_eq s (by simp [Route.methods]) (by decide), Site.serve,
      if_pos is.1, Site.acting, account, Site.named, video]
    exact ⟨_, rfl, _, rfl⟩
  obtain ⟨next, finding, next', deleting⟩ := asks
  obtain ⟨safe, refusals⟩ :=
    writes_authorised s requests Store.Memory.authored_deserted ⟨[v], [], []⟩
  refine ⟨?_, ?_, ?_⟩
  · let found := Reception.behind opening true next (.ok (some v)) ⟨[v], [], []⟩
    have first : Pool.Step (Reception.surroundings store) opening found :=
      Reception.step_behind finding rfl
    have waits : found.callers true = .ask (.store (.delete 1)) next' :=
      (Reception.behind_callers ..).trans deleting
    have second : Pool.Step (Reception.surroundings store) found
        (Reception.behind found true next' (.ok ()) ⟨[], [], []⟩) :=
      Reception.step_behind waits rfl
    obtain ⟨i, -, -, -, -, deletes, acts⟩ := (safe found (.single first)).2 _ 1 7 second rfl rfl
    exact ⟨found, _, .single first, second, rfl, rfl, i, deletes, acts⟩
  · have nobody : (like []).Unnamed := rfl
    exact (refusals (like []) (.like "1" ⟨rfl, likes⟩)).1 (.inl nobody)
  · have misnamed : (like [("x-viewer-id", bytes "me")]).Misnamed :=
      Request.viewer?_eq_none_iff.mp (by decide +kernel)
    exact (refusals _ (.like "1" ⟨rfl, likes⟩)).2 misnamed

end ClipFeed.Http
