import ClipFeed.Proofs.Cache.Logging
import ClipFeed.Proofs.Dialogue.Transcript
import ClipFeed.Proofs.Http.Tagging
import ClipFeed.Proofs.Http.Writes
import ClipFeed.Proofs.Text.Integer
/-!
What is told of a request. Between the layers a handler may ask and answer whatever it likes, as
long as it does not itself log as the layers do: its response is marked with the one identifier of
its request, and one event is logged that agrees with the response, with the caller that the routes
would see, and with the report that the handler attached.
-/

namespace ClipFeed

def Log.Event.field? (event : Log.Event) (name : String) : Option Log.Datum :=
  event.fields.lookup name

def Effect.eventUnder? (target : String) : Effect → Option Log.Event
  | .log event => if event.target = target then some event else none
  | _ => none

/-- What is logged under a target in the course of a transcript. -/
def eventsUnder (target : String) (told : List Exchange) : List Log.Event :=
  told.filterMap (·.1.eventUnder? target)

private theorem eventsUnder_append (target : String) (first second : List Exchange) :
    eventsUnder target (first ++ second) = eventsUnder target first ++ eventsUnder target second :=
  List.filterMap_append

private theorem eventsUnder_log
    {target : String} {event : Log.Event} (under : event.target = target) :
    eventsUnder target [⟨.log event, ()⟩] = [event] := by
  simp [eventsUnder, Effect.eventUnder?, under]

private theorem eventsUnder_eq_nil {target : String} {told : List Exchange}
    (apart : ∀ x ∈ told, Apart target x.1) : eventsUnder target told = [] := by
  refine List.filterMap_eq_nil_iff.mpr fun x member => ?_
  have elsewhere := apart x member
  obtain ⟨q, a⟩ := x
  cases q with
  | log event => exact if_neg elsewhere
  | _ => rfl

namespace Http

open Text

/-- Whether a status is that of a failing response. -/
def Failing (status : Nat) : Prop :=
  400 ≤ status ∧ status < 600

def levelFor (status : Nat) : Log.Level :=
  if 500 ≤ status ∧ status < 600 then .error
  else if 400 ≤ status ∧ status < 500 then .warn
  else .debug

/-- What is said of a failing response: the source and the first message of its report, if there is
one. -/
inductive Diagnosis : Option Report → String → String → Prop where
  | unrouted : Diagnosis none "unrouted" "no diagnostic"
  | reported (source : String) (status : Nat) (first : String) (others : List String) :
      Diagnosis (some ⟨source, status, first :: others⟩) source first
  | silent (source : String) (status : Nat) :
      Diagnosis (some ⟨source, status, []⟩) source "no diagnostic"

/-- Whether whoever asks for the caller is refused with a status. -/
def Refused {α : Type} (asked : Except Refusal α) (status : Nat) : Prop :=
  ∃ refusal, asked = .error refusal ∧ refusal.status = status

/-- An event recounts a request with this identifier, and its response with this status and this
report. Whom the routes would take for the caller is what both ways of asking for it say. -/
structure Recounts (r : Request) (id : String) (status : Nat) (report : Option Report)
    (event : Log.Event) : Prop where
  target_eq : event.target = "vidfeed::http::response"
  level_eq : event.level = levelFor status
  status_eq : event.field? "status" = some (.number status)
  id_eq : event.field? "request_id" = some (.text id)
  malformed : event.field? "viewer_kind" = some (.quoted "malformed") ↔
    Refused (Caller.viewerOf r) 400
  malformed_acting : event.field? "viewer_kind" = some (.quoted "malformed") ↔
    Refused (Caller.accountOf r) 400
  account : event.field? "viewer_kind" = some (.quoted "account") ↔
    ∃ n, Caller.viewerOf r = .ok (.account n)
  account_acting : event.field? "viewer_kind" = some (.quoted "account") ↔
    ∃ n, Caller.accountOf r = .ok n
  number (failing : Failing status) (n : Int64) :
    event.field? "viewer_id" = some (.text ("Some(" ++ toString n ++ ")")) ↔
      Caller.viewerOf r = .ok (.account n)
  number_acting (failing : Failing status) (n : Int64) :
    event.field? "viewer_id" = some (.text ("Some(" ++ toString n ++ ")")) ↔
      Caller.accountOf r = .ok n
  unnumbered (served : ¬ Failing status) : event.field? "viewer_id" = none
  diagnosis (failing : Failing status) : ∃ source detail,
    event.field? "source" = some (.quoted source) ∧
      event.field? "detail" = some (.quoted detail) ∧ Diagnosis report source detail

namespace Caller

variable {r : Request} {n : Int64}

theorem viewerOf_eq_account_iff : viewerOf r = .ok (.account n) ↔ accountOf r = .ok n := by
  rw [accountOf]
  cases viewerOf r with
  | error refusal => simp [bind, Except.bind]
  | ok v =>
    cases v with
    | anonymous => simp [bind, Except.bind, Viewer.accountId?, throw, throwThe, MonadExceptOf.throw]
    | account m => simp [bind, Except.bind, Viewer.accountId?, pure, Except.pure]

/-- A caller is known by a number exactly if it is an account of this number. -/
theorem ofRequest_eq_account_iff : ofRequest r = .account n ↔ viewerOf r = .ok (.account n) := by
  rw [ofRequest, viewerOf]
  cases viewer? r with
  | none => simp
  | some v => cases v <;> simp [ofViewer]

private theorem ofRequest_eq_malformed_iff : ofRequest r = .malformed ↔ r.Misnamed := by
  rw [ofRequest, ← Request.viewer?_eq_none_iff]
  cases viewer? r with
  | none => simp
  | some v => cases v <;> simp [ofViewer]

private theorem refused_viewerOf_iff : Refused (viewerOf r) 400 ↔ r.Misnamed := by
  constructor
  · rintro ⟨refusal, refused, _⟩
    rw [← Request.viewer?_eq_none_iff]
    unfold viewerOf at refused
    split at refused
    · cases refused
    · assumption
  · exact fun misnamed => ⟨_, viewerOf_of_misnamed misnamed, rfl⟩

/-- The other refusal, that there is no account, has another status. -/
theorem refused_accountOf_iff : Refused (accountOf r) 400 ↔ r.Misnamed := by
  constructor
  · rintro ⟨refusal, refused, status⟩
    rcases r.naming with unnamed | ⟨m, names⟩ | misnamed
    · rw [accountOf_of_unnamed unnamed] at refused
      cases refused
      cases status
    · rw [accountOf_of_names names] at refused
      split at refused
      · cases refused
      · cases refused
        cases status
    · exact misnamed
  · exact fun misnamed => ⟨_, accountOf_of_misnamed misnamed, rfl⟩

private theorem kind_eq_malformed_iff {c : Caller} : c.kind = "malformed" ↔ c = .malformed := by
  cases c <;> simp [kind]

private theorem kind_eq_account_iff {c : Caller} : c.kind = "account" ↔ ∃ n, c = .account n := by
  cases c <;> simp [kind]

private theorem accountId?_eq_some_iff {c : Caller} : c.accountId? = some n ↔ c = .account n := by
  cases c <;> simp [accountId?]

end Caller

namespace Exchange

variable {r : Request} {x : Exchange}

private theorem diagnosis_report (reply : Reply) :
    Diagnosis reply.report (source reply) (detail reply) := by
  rw [detail, source, messages]
  rcases reply.report with _ | ⟨source, status, _ | ⟨first, others⟩⟩
  · exact .unrouted
  · exact .silent source status
  · exact .reported source status first others

private theorem optionText_eq_some_iff {id? : Option Int64} {n : Int64} :
    optionText id? = "Some(" ++ toString n ++ ")" ↔ id? = some n := by
  cases id? with
  | none =>
    refine iff_of_false (fun same => ?_) (by simp)
    have first := congrArg (·.toList.head?) same
    simp [optionText] at first
  | some m =>
    constructor
    · intro same
      exact congrArg some (toString_injective (by simpa [optionText] using same))
    · intro same
      rw [Option.some.inj same]
      rfl

private theorem failing_iff {status : Nat} :
    Failing status ↔ isServerError status ∨ isClientError status := by
  simp only [Failing, isServerError, isClientError, Bool.and_eq_true, decide_eq_true_eq]
  omega

/-- The fields that every event has. -/
theorem event_common (r : Request) (x : Exchange) :
    (x.event r).target = target ∧ (x.event r).level = levelFor x.reply.status ∧
      (x.event r).field? "status" = some (.number x.reply.status) ∧
      (x.event r).field? "request_id" = some (.text x.requestId) ∧
      (x.event r).field? "viewer_kind" = some (.quoted x.caller.kind) := by
  have server : isServerError x.reply.status ↔ 500 ≤ x.reply.status ∧ x.reply.status < 600 := by
    simp [isServerError]
  have client : isClientError x.reply.status ↔ 400 ≤ x.reply.status ∧ x.reply.status < 500 := by
    simp [isClientError]
  rw [event, levelFor]
  -- the level is chosen by the same two conditions as the fields
  simp only [← server, ← client]
  split
  · exact ⟨rfl, rfl, rfl, rfl, rfl⟩
  · split
    · exact ⟨rfl, rfl, rfl, rfl, rfl⟩
    · exact ⟨rfl, rfl, rfl, rfl, rfl⟩

/-- The fields that only the event of a failing response has. -/
theorem event_failing (failing : Failing x.reply.status) :
    (x.event r).field? "viewer_id" = some (.text (optionText x.caller.accountId?)) ∧
      (x.event r).field? "source" = some (.quoted (source x.reply)) ∧
      (x.event r).field? "detail" = some (.quoted (detail x.reply)) := by
  rw [failing_iff] at failing
  rw [event]
  split
  · exact ⟨rfl, rfl, rfl⟩
  · next other =>
    rw [if_pos (failing.resolve_left other)]
    exact ⟨rfl, rfl, rfl⟩

private theorem event_served (served : ¬ Failing x.reply.status) :
    (x.event r).field? "viewer_id" = none := by
  rw [failing_iff, not_or] at served
  rw [event, if_neg served.1, if_neg served.2]
  rfl

/-- The one event of an exchange recounts its request and its reply. -/
theorem event_recounts (r : Request) (reply : Reply) (id : String) :
    Recounts r id reply.status reply.report (event r ⟨reply, id, .ofRequest r⟩) := by
  obtain ⟨target, level, status, named, kind⟩ := event_common r ⟨reply, id, .ofRequest r⟩
  have malformed : (Caller.ofRequest r).kind = "malformed" ↔ r.Misnamed :=
    Caller.kind_eq_malformed_iff.trans Caller.ofRequest_eq_malformed_iff
  have account : (Caller.ofRequest r).kind = "account" ↔
      ∃ n, Caller.viewerOf r = .ok (.account n) :=
    Caller.kind_eq_account_iff.trans (exists_congr fun _ => Caller.ofRequest_eq_account_iff)
  have number (n : Int64) : optionText (Caller.ofRequest r).accountId? =
      "Some(" ++ toString n ++ ")" ↔ Caller.viewerOf r = .ok (.account n) :=
    optionText_eq_some_iff.trans
      (Caller.accountId?_eq_some_iff.trans Caller.ofRequest_eq_account_iff)
  have numbered (failing : Failing reply.status) (n : Int64) :
      (event r ⟨reply, id, .ofRequest r⟩).field? "viewer_id" =
        some (.text ("Some(" ++ toString n ++ ")")) ↔ Caller.viewerOf r = .ok (.account n) := by
    rw [(event_failing failing).1, ← number n]
    simp
  exact {
    target_eq := target
    level_eq := level
    status_eq := status
    id_eq := named
    malformed := by simpa [kind, Caller.refused_viewerOf_iff] using malformed
    malformed_acting := by simpa [kind, Caller.refused_accountOf_iff] using malformed
    account := by simpa [kind] using account
    account_acting := by simpa [kind, Caller.viewerOf_eq_account_iff] using account
    number := numbered
    number_acting := fun failing n =>
      (numbered failing n).trans Caller.viewerOf_eq_account_iff
    unnumbered := fun served => event_served served
    diagnosis := fun failing =>
      ⟨_, _, (event_failing failing).2.1, (event_failing failing).2.2, diagnosis_report reply⟩ }

end Exchange

/-- A question by which nothing is logged as the layers do. -/
abbrev Aside : Effect → Prop :=
  Apart Exchange.target

section

variable {α ε : Type} {r : Request}

private theorem aside_resolve (g : Cache.Gateway) (codec : Cache.Codec α) (key : Cache.Key)
    (policy : Cache.Policy) {compute : Action (Except ε α)} (computes : compute.Asks Aside) :
    (g.resolve codec key policy compute).Asks Aside :=
  g.apart_resolve codec key (by decide) policy computes

private theorem aside_feed (r : Request) {s : Feed.Service} (feed : Feed.Kind) :
    (Site.feed r (s.pageFromToken feed)).Asks Aside :=
  asks_feed (fun _ _ => trivial) (fun codec key _ => aside_resolve s.gateway codec key s.policy) r
    feed

private theorem aside_settle
    (s : Video.Service) (id : Int64) (outcome : Except Video.Failure Unit) :
    (s.settle id outcome).Asks Aside :=
  asks_settle (s.gateway.apart_evict _ (by decide)) outcome

private theorem aside_delete (s : Video.Service) (id account : Int64) :
    (s.delete id account).Asks Aside := by
  refine (asks_find trivial).bind fun found => ?_
  cases found with
  | error failure => trivial
  | ok v =>
    simp only
    split
    · exact (Dialogue.asks_request trivial).bind fun _ => aside_settle s id _
    · trivial

private theorem aside_publication (submission : Submission) :
    (Video.Service.publish submission).Asks Aside := by
  have published : Video.Service.target ≠ Exchange.target := by decide
  unfold Video.Service.publish
  split
  · trivial
  · refine (Dialogue.asks_request trivial).bind fun created => ?_
    cases created with
    | error fault => trivial
    | ok v => exact ⟨published, fun _ _ => trivial⟩

private theorem aside_publish (account : Int64) : (Site.publish r account).Asks Aside := by
  unfold Site.publish
  split
  · trivial
  · next submission _ =>
    have published := aside_publication submission
    -- only that it was published aside matters, not how the submission is checked
    generalize Video.Service.publish submission = publication at published ⊢
    exact published.bind fun _ => trivial

private theorem aside_acting {answer : Int64 → Action Reply}
    (acts : ∀ account, (answer account).Asks Aside) : (Site.acting r answer).Asks Aside := by
  unfold Site.acting
  split
  · trivial
  · exact acts _

private theorem aside_named {segment : String} {answer : Int64 → Action Reply}
    (names : ∀ id, (answer id).Asks Aside) : (Site.named segment answer).Asks Aside := by
  unfold Site.named
  split
  · trivial
  · exact names _

private theorem aside_serve (s : Site) (r : Request) (route : Route) :
    (s.serve r route).Asks Aside := by
  have changed (s : Video.Service) (id : Int64) {call : Store.Call}
      (outcome : Except Store.Fault call.Answer → Except Video.Failure Unit) :
      (Action.store call >>= fun a => s.settle id (outcome a)).Asks Aside :=
    (Dialogue.asks_request trivial).bind fun _ => aside_settle s id _
  cases route with
  | latest => exact aside_feed r .latest
  | popular => exact aside_feed r .popular
  | following => exact aside_feed r .following
  | videos => exact aside_acting aside_publish
  | video segment =>
    by_cases delete : r.method = "DELETE"
    · simp only [Site.serve, if_pos delete]
      exact aside_acting fun account => aside_named fun id =>
        (aside_delete s.videos id account).bind fun _ => trivial
    · simp only [Site.serve, if_neg delete]
      exact aside_named fun id => (aside_resolve _ _ _ _ (asks_find trivial)).bind fun _ => trivial
  | like segment =>
    refine aside_acting fun account => aside_named fun id => ?_
    split
    · exact (changed s.videos id _).bind fun _ => trivial
    · exact (changed s.videos id _).bind fun _ => trivial
  | health => exact ⟨trivial, fun _ _ => trivial⟩

/-- No route logs as the layers do. -/
theorem aside_respond (s : Site) (r : Request) : (s.respond r).Asks Aside := by
  unfold Site.respond
  split
  · trivial
  · next route _ =>
    split
    · exact (aside_serve s r route).bind fun _ => trivial
    · trivial

end

/-- How a request came by its identifier: it forwarded one, and then nothing was asked, or it
forwarded none, and one was minted. -/
inductive Identified (r : Request) : List ClipFeed.Exchange → String → Prop where
  | forwarded {id : String} (forwards : r.Forwards id) : Identified r [] id
  | minted {id : String} (nothing : ∀ id, ¬ r.Forwards id) : Identified r [⟨.requestId, id⟩] id

section

variable {α : Type} {r : Request} {id : String} {asked told : List ClipFeed.Exchange}

/-- Whatever begins with the identifier of its request goes on once the request is identified. -/
theorem identified_of_ends {rest : String → Action α} {a : α}
    (ended : (match Exchange.forwardedId? r with
      | some id => rest id
      | none => Action.ask .requestId >>= rest).Ends told a) :
    ∃ asked id behind, Identified r asked id ∧ (rest id).Ends behind a ∧
      told = asked ++ behind := by
  cases known : Exchange.forwardedId? r with
  | some id =>
    rw [known] at ended
    exact ⟨[], id, told, .forwarded (forwardedId?_eq_some_iff.mp known), ended, rfl⟩
  | none =>
    rw [known] at ended
    obtain ⟨id, behind, rfl, goes⟩ := Dialogue.ends_ask_iff.mp ended
    exact ⟨[⟨.requestId, id⟩], id, behind, .minted (forwardedId?_eq_none_iff.mp known), goes, rfl⟩

/-- The transcript of what is logged at the end ends with the event. -/
theorem logged_of_ends {β : Type} {action : Action α} {event : α → Log.Event} {finish : α → β}
    {b : β} (ended : (do
      let a ← action
      Action.log (event a)
      return finish a : Action β).Ends told b) :
    ∃ within a, action.Ends within a ∧ told = within ++ [⟨.log (event a), ()⟩] ∧ b = finish a := by
  obtain ⟨within, a, last, acts, logs, rfl⟩ := ended.of_bind
  obtain ⟨_, none, rfl, ends⟩ := Dialogue.ends_ask_iff.mp logs
  obtain ⟨rfl, rfl⟩ := Dialogue.ends_done_iff.mp ends
  exact ⟨within, a, acts, rfl, rfl⟩

theorem Identified.aside (identified : Identified r asked id) : ∀ x ∈ asked, Aside x.1 := by
  cases identified with
  | forwarded => exact nofun
  | minted =>
    intro x member
    obtain rfl := List.mem_singleton.mp member
    trivial

/-- Wherever it came from, an identifier can be the value of a header. -/
theorem Identified.headerValue?_eq (identified : Identified r asked id)
    (minted : ∀ id, ⟨.requestId, id⟩ ∈ asked → Minted id) : headerValue? id = some (bytes id) := by
  cases identified with
  | forwarded forwards => exact headerValue?_of_plain forwards.plain
  | minted => exact headerValue?_of_plain (minted id List.mem_cons_self).plain

end

/-- The response as both layers leave it. -/
def Outbound.finished (m : Outbound) (context : Context) : Outbound :=
  let quiet := if Exchange.isServerError m.reply.status || Exchange.isClientError m.reply.status
    then m.withoutReport else m
  let marked := match headerValue? context.requestId with
    | some value => quiet.insert Exchange.idHeader value
    | none => quiet
  { marked with context := some context }

def Exchange.outbound (x : Exchange) : Outbound :=
  (Outbound.ofReply x.reply).finished ⟨x.requestId, x.caller⟩

namespace Layers

variable {r : Request} {handler : Context → Action Outbound}

/-- What is left of the layers once the request is identified. -/
def handled (r : Request) (handler : Context → Action Outbound) (id : String) :
    Action Outbound := do
  let m ← handler ⟨id, .ofRequest r⟩
  Action.log (Exchange.event r ⟨m.reply, id, .ofRequest r⟩)
  return m.finished ⟨id, .ofRequest r⟩

theorem around_eq (r : Request) (handler : Context → Action Outbound) :
    around r handler = match Exchange.forwardedId? r with
      | some id => handled r handler id
      | none => Action.ask .requestId >>= handled r handler := by
  unfold around identified
  cases Exchange.forwardedId? r with
  | some id => exact Dialogue.bind_assoc _ _ _
  | none => exact congrArg _ (funext fun id => Dialogue.bind_assoc _ _ _)

end Layers

namespace Outbound

variable (m : Outbound) (context : Context)

private theorem finished_status : (m.finished context).reply.status = m.reply.status := by
  unfold finished
  cases headerValue? context.requestId <;> dsimp only <;> split <;> rfl

private theorem finished_values
    {value : Bytes} (written : headerValue? context.requestId = some value) :
    (m.finished context).values Exchange.idHeader = [value] := by
  unfold finished
  rw [written]
  exact values_insert (by decide +kernel) _ value

end Outbound

/-- A response is tagged with the identifier of its request and with its caller, and one event
recounts it. The reply is that of the handler; from a failing response its report is taken away. -/
structure Accounted (r : Request) (id : String) (reply : Reply) (told : List ClipFeed.Exchange)
    (m : Outbound) (event : Log.Event) : Prop where
  header : m.values "x-request-id" = [bytes id]
  context : m.context = some ⟨id, .ofRequest r⟩
  caller (n : Int64) : Caller.ofRequest r = .account n ↔ Caller.accountOf r = .ok n
  status : m.reply.status = reply.status
  once : eventsUnder "vidfeed::http::response" told = [event]
  recounts : Recounts r id m.reply.status reply.report event

section

variable {r : Request} {id : String} {asked within : List ClipFeed.Exchange} {m : Outbound}

/-- Whatever a handler asks aside, its response is accounted for. -/
theorem accounted (identified : Identified r asked id) (aside : ∀ x ∈ within, Aside x.1)
    (minted : ∀ id, ⟨.requestId, id⟩ ∈ asked → Minted id) :
    Accounted r id m.reply
      (asked ++ within ++ [⟨.log (Exchange.event r ⟨m.reply, id, .ofRequest r⟩), ()⟩])
      (m.finished ⟨id, .ofRequest r⟩) (Exchange.event r ⟨m.reply, id, .ofRequest r⟩) := by
  have recounts := Exchange.event_recounts r m.reply id
  have before : eventsUnder Exchange.target asked = [] := eventsUnder_eq_nil identified.aside
  have during : eventsUnder Exchange.target within = [] := eventsUnder_eq_nil aside
  exact {
    header := m.finished_values _ (identified.headerValue?_eq minted)
    context := rfl
    caller := fun _ => Caller.ofRequest_eq_account_iff.trans Caller.viewerOf_eq_account_iff
    status := m.finished_status _
    once := by
      change eventsUnder Exchange.target _ = _
      rw [eventsUnder_append, eventsUnder_append, before, during]
      exact eventsUnder_log recounts.target_eq
    recounts := by rwa [m.finished_status] }

end

/-- The layers around the routes make of an exchange its response, and ask nothing more. -/
theorem Site.outbound_eq (s : Site) (r : Request) :
    s.outbound r = s.exchange r >>= fun x => .done x.outbound := by
  have answered (id : String) : Layers.handled r (fun _ => do return .ofReply (← s.respond r)) id =
      s.answered r id >>= fun x => .done x.outbound := by
    have regrouped := Dialogue.bind_assoc (s.respond r)
      (fun reply => do
        let x : Exchange := ⟨reply, id, .ofRequest r⟩
        Action.log (x.event r)
        return x) fun x => .done x.outbound
    exact (Dialogue.bind_assoc _ _ _).trans regrouped.symm
  rw [outbound, Layers.around_eq, exchange_eq]
  cases Exchange.forwardedId? r with
  | some id => exact answered id
  | none => exact congrArg (Dialogue.ask _) (funext answered)

/-- Whatever a request holds and whatever its handler does, short of logging as the layers do, the
response is marked with the one identifier that the request forwarded or that was minted for it,
and exactly one event is logged. The event has that identifier and the status, at the level of its
class; it names the kind of the caller, and for a failing status the account and what the report
says. The same holds of whatever a site answers. -/
theorem responses_accounted (r : Request) :
    (∀ (handler : Context → Action Outbound) (told : List ClipFeed.Exchange) (m : Outbound),
      (∀ context, (handler context).Asks (Apart "vidfeed::http::response")) →
      (Layers.around r handler).Ends told m → (∀ id, ⟨.requestId, id⟩ ∈ told → Minted id) →
      ∃ asked id within inner event, Identified r asked id ∧
        (handler ⟨id, .ofRequest r⟩).Ends within inner ∧
        told = asked ++ within ++ [⟨.log event, ()⟩] ∧
        Accounted r id inner.reply told m event) ∧
    ∀ (s : Site) (told : List ClipFeed.Exchange) (x : Exchange),
      (s.exchange r).Ends told x → (∀ id, ⟨.requestId, id⟩ ∈ told → Minted id) →
      ∃ asked within event, Identified r asked x.requestId ∧ (s.respond r).Ends within x.reply ∧
        told = asked ++ within ++ [⟨.log event, ()⟩] ∧ (s.outbound r).Ends told x.outbound ∧
        Accounted r x.requestId x.reply told x.outbound event := by
  constructor
  · intro handler told m aside ended minted
    -- a transcript is the identification, what the handler asks, and the event
    rw [Layers.around_eq] at ended
    obtain ⟨asked, id, behind, identified, goes, rfl⟩ := identified_of_ends ended
    obtain ⟨within, inner, handles, rfl, rfl⟩ := logged_of_ends goes
    refine ⟨asked, id, within, inner, _, identified, handles, (List.append_assoc ..).symm, ?_⟩
    rw [← List.append_assoc]
    refine accounted identified ((aside _).of_ends handles) fun id member => ?_
    exact minted id (List.mem_append_left _ member)
  · intro s told x ended minted
    have outbound : (s.outbound r).Ends told x.outbound := by
      rw [s.outbound_eq r, ← List.append_nil told]
      exact ended.bind (.done _)
    rw [Site.exchange_eq] at ended
    obtain ⟨asked, id, behind, identified, goes, rfl⟩ := identified_of_ends ended
    obtain ⟨within, reply, responds, rfl, rfl⟩ := logged_of_ends goes
    refine ⟨asked, within, _, identified, responds, (List.append_assoc ..).symm, outbound, ?_⟩
    rw [← List.append_assoc]
    refine accounted (m := .ofReply reply) identified ((aside_respond s r).of_ends responds) ?_
    exact fun id member => minted id (List.mem_append_left _ member)

/-- A handler fails with an identifier of its own, and a path leads nowhere. -/
theorem responses_accounted_of_failing :
    let r : Request :=
      ⟨"GET", "/nowhere", none, [("x-request-id", bytes "  "), ("x-viewer-id", bytes "bob")], []⟩
    let failing : Outbound :=
      ⟨{ Reply.empty 503 with report := some ⟨"store", 503, ["down", "shut"]⟩ },
        [("X-Request-Id", bytes "stale")], none⟩
    let id := "0f8fad5b-d9cb-469f-a165-70867728950e"
    let g : Cache.Gateway := ⟨"disabled", 5, 0, 2⟩
    let s : Site := ⟨⟨g, ⟨9, 3⟩, .standard⟩, ⟨g, ⟨9, 3⟩⟩⟩
    (∃ told m event, (Layers.around r fun _ => return failing).Ends (⟨.requestId, id⟩ :: told) m ∧
      m.values "x-request-id" = [bytes id] ∧
      eventsUnder "vidfeed::http::response" (⟨.requestId, id⟩ :: told) = [event] ∧
      event.level = .error ∧ event.field? "detail" = some (.quoted "down")) ∧
    ∃ told x event, (s.exchange r).Ends (⟨.requestId, id⟩ :: told) x ∧
      x.outbound.values "x-request-id" = [bytes id] ∧
      eventsUnder "vidfeed::http::response" (⟨.requestId, id⟩ :: told) = [event] ∧
      event.level = .warn ∧ event.field? "viewer_kind" = some (.quoted "malformed") := by
  intro r failing id g s
  have unforwarded : Exchange.forwardedId? r = none := by decide +kernel
  have minted (e : Log.Event) : ∀ i, ⟨.requestId, i⟩ ∈
      ([⟨.requestId, id⟩, ⟨.log e, ()⟩] : List ClipFeed.Exchange) → Minted i := by
    intro i member
    have same : i = id := by simpa using member
    rw [same]
    decide +kernel
  have nowhere : s.respond r = .done (.empty 404) := by
    have pieces : "/nowhere".splitOn "/" = _ := Text.splitOn_singleton _ '/'
    have path : Route.ofPath? "/nowhere" = none := by
      rw [Route.ofPath?, pieces]
      rfl
    rw [Site.respond, path]
    rfl
  constructor
  · have ended : (Layers.around r fun _ => return failing).Ends
        [⟨.requestId, id⟩, ⟨.log (Exchange.event r ⟨failing.reply, id, .ofRequest r⟩), ()⟩]
        (failing.finished ⟨id, .ofRequest r⟩) := by
      rw [Layers.around_eq, unforwarded]
      exact .ask (.ask (.done _))
    obtain ⟨asked, i, within, inner, event, identified, handles, _, told⟩ :=
      (responses_accounted r).1 _ _ _ (fun _ => Dialogue.asks_done failing) ended (minted _)
    obtain ⟨rfl, rfl⟩ := Dialogue.ends_done_iff.mp handles
    have same : id = i := congrArg Context.requestId (Option.some.inj told.context)
    refine ⟨_, _, event, ended, same ▸ told.header, told.once, ?_, ?_⟩
    · rw [told.recounts.level_eq, told.status]
      rfl
    · obtain ⟨source, detail, _, said, diagnosis⟩ :=
        told.recounts.diagnosis (told.status ▸ ⟨by decide, by decide⟩)
      cases diagnosis
      exact said
  · have ended : (s.exchange r).Ends
        [⟨.requestId, id⟩, ⟨.log (Exchange.event r ⟨.empty 404, id, .ofRequest r⟩), ()⟩]
        ⟨.empty 404, id, .ofRequest r⟩ := by
      rw [Site.exchange_eq, unforwarded]
      refine .ask ?_
      unfold Site.answered
      rw [nowhere]
      exact .ask (.done _)
    obtain ⟨asked, within, event, identified, responds, _, _, told⟩ :=
      (responses_accounted r).2 s _ _ ended (minted _)
    refine ⟨_, _, event, ended, told.header, told.once, ?_, ?_⟩
    · rw [told.recounts.level_eq, told.status]
      rfl
    · exact told.recounts.malformed.mpr ⟨.misnamed, by decide +kernel, rfl⟩

/-- The event of a served response names the kind of its caller, but not the account. -/
theorem account_unnumbered_when_served :
    let r : Request := ⟨"GET", "/feed/latest", none,
      [("x-viewer-id", bytes "5"), ("x-request-id", bytes " edge-42 ")], []⟩
    let g : Cache.Gateway := ⟨"feed", 50, 10, 5⟩
    let s : Site := ⟨⟨g, ⟨9000, 3000⟩, .standard⟩, ⟨g, ⟨9000, 3000⟩⟩⟩
    Caller.accountOf r = .ok 5 ∧ ∃ told x event, (s.exchange r).Ends told x ∧
      x.reply.status = 200 ∧ eventsUnder "vidfeed::http::response" told = [event] ∧
      event.fields = [("status", .number 200), ("method", .text "GET"),
        ("surface", .quoted "feed"), ("viewer_kind", .quoted "account"),
        ("request_id", .text "edge-42")] := by
  intro r g s
  have viewer : Caller.viewerOf r = .ok (.account 5) := by decide +kernel
  have caller : Caller.ofRequest r = .account 5 := Caller.ofRequest_eq_account_iff.mpr viewer
  have forwarded : Exchange.forwardedId? r = some "edge-42" := by decide +kernel
  have routed : s.respond r = Site.feed r (s.feeds.pageFromToken .latest) :=
    Site.respond_feed rfl rfl
  let reply : Reply := .json 200 (Feed.Response.toJson ⟨[], none, false⟩)
  let event : Log.Event := Exchange.event r ⟨reply, "edge-42", .ofRequest r⟩
  have responds : (s.respond r).Ends [⟨.store (.listLatest ⟨10, none⟩), .ok []⟩] reply := by
    rw [routed, Site.feed, viewer]
    exact .ask (.done _)
  have ended : (s.exchange r).Ends
      ([⟨.store (.listLatest ⟨10, none⟩), .ok []⟩] ++ [⟨.log event, ()⟩])
      ⟨reply, "edge-42", .ofRequest r⟩ := by
    rw [Site.exchange_eq, forwarded]
    exact responds.bind (.ask (.done _))
  have once := eventsUnder_log (Exchange.event_recounts r reply "edge-42").target_eq
  refine ⟨Caller.viewerOf_eq_account_iff.mp viewer, _, _, event, ended, rfl, once, ?_⟩
  simp only [event, caller]
  decide +kernel

end Http

end ClipFeed
