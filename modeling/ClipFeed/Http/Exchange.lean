import ClipFeed.Http.Site
/-!
Exchanges: a reply together with the identifier and the caller of its request. An identifier that
was forwarded is kept when it is short plain text; otherwise one is minted. Every exchange is
logged once, by the class of its status.
-/

namespace ClipFeed.Http

open Text

structure Exchange where
  reply : Reply
  requestId : String
  caller : Caller
  deriving DecidableEq, Repr

namespace Exchange

def idHeader : String := "x-request-id"

def longestId : Nat := 64

/-- The identifier that came with a request, if it can be kept. -/
def forwardedId? (r : Request) : Option String :=
  match ((r.header? idHeader).bind plainText?).map trim with
  | some id => if !id.isEmpty && id.length ≤ longestId then some id else none
  | none => none

def target : String := "vidfeed::http::response"

def optionText : Option Int64 → String
  | some id => "Some(" ++ toString id ++ ")"
  | none => "None"

def source (reply : Reply) : String :=
  (reply.report.map (·.source)).getD "unrouted"

def messages (reply : Reply) : List String :=
  (reply.report.map (·.messages)).getD []

def detail (reply : Reply) : String :=
  (messages reply).head?.getD "no diagnostic"

def isServerError (status : Nat) : Bool := 500 ≤ status && status < 600
def isClientError (status : Nat) : Bool := 400 ≤ status && status < 500

def event (r : Request) (x : Exchange) : Log.Event :=
  let status := ("status", Log.Datum.number x.reply.status)
  let method := ("method", Log.Datum.text r.method)
  let path := ("path", Log.Datum.text r.path)
  let surface := ("surface", Log.Datum.quoted (surface r.path))
  let source := ("source", Log.Datum.quoted (source x.reply))
  let detail := ("detail", Log.Datum.quoted (detail x.reply))
  let kind := ("viewer_kind", Log.Datum.quoted x.caller.kind)
  let viewer := ("viewer_id", Log.Datum.text (optionText x.caller.accountId?))
  let id := ("request_id", Log.Datum.text x.requestId)
  if isServerError x.reply.status then
    ⟨.error, target, "request failed",
      [status, method, path, surface, source, detail,
        ("chain", .text (Quoted.encodeList (messages x.reply))), kind, viewer, id]⟩
  else if isClientError x.reply.status then
    ⟨.warn, target, "rejected request",
      [status, method, path, ("query", .quoted (r.query.getD "")), surface, source, detail, kind,
        viewer, id]⟩
  else ⟨.debug, target, "request served", [status, method, surface, kind, id]⟩

end Exchange

/-- The exchange that answers a request. -/
def Site.exchange (s : Site) (r : Request) : Action Exchange := do
  let requestId ← match Exchange.forwardedId? r with
    | some id => pure id
    | none => Action.ask .requestId
  let reply ← s.respond r
  let x : Exchange := ⟨reply, requestId, .ofRequest r⟩
  Action.log (x.event r)
  return x

end ClipFeed.Http
