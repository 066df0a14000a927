import ClipFeed.Http.Exchange
/-!
The layers around the routes. The outer one identifies a request and marks the response with the
identifier; the inner one logs the response and takes the report of a failing one away. What the
outer layer knows goes with the request to the inner one and to the route, and back with the
response.
-/

namespace ClipFeed.Http

open Text

/-- What is known of a request before it is routed. -/
structure Context where
  requestId : String
  caller : Caller
  deriving DecidableEq, Repr

/-- A reply on its way out. -/
structure Outbound where
  reply : Reply
  /-- The headers that a reply has no field for. -/
  headers : List (String × Bytes)
  context : Option Context
  deriving DecidableEq, Repr

namespace Outbound

def ofReply (reply : Reply) : Outbound :=
  ⟨reply, [], none⟩

/-- The values of a header, in whatever case its name is written. -/
def values (m : Outbound) (name : String) : List Bytes :=
  (m.headers.filter fun (n, _) => n.toLower == name).map (·.2)

def insert (m : Outbound) (name : String) (value : Bytes) : Outbound :=
  { m with headers := m.headers.filter (fun (n, _) => n.toLower != name) ++ [(name, value)] }

def withoutReport (m : Outbound) : Outbound :=
  { m with reply := { m.reply with report := none } }

end Outbound

/-- Whether a byte may stand in the value of a header: no control but the tab. -/
def isHeaderByte (b : UInt8) : Bool :=
  (32 ≤ b && b != 127) || b == 9

/-- The value of a header that is written as this text, if there is one. -/
def headerValue? (s : String) : Option Bytes :=
  if (bytes s).all isHeaderByte then some (bytes s) else none

namespace Layers

def identified (r : Request) (inner : Context → Action Outbound) : Action Outbound := do
  let requestId ← match Exchange.forwardedId? r with
    | some id => pure id
    | none => Action.ask .requestId
  let context : Context := ⟨requestId, .ofRequest r⟩
  let m ← inner context
  let marked := match headerValue? requestId with
    | some value => m.insert Exchange.idHeader value
    | none => m
  return { marked with context := some context }

/-- The inner layer. Without a context it knows the caller alone. -/
def logged (r : Request) (context : Option Context) (inner : Action Outbound) :
    Action Outbound := do
  let known := context.getD ⟨"", .ofRequest r⟩
  let m ← inner
  Action.log (Exchange.event r ⟨m.reply, known.requestId, known.caller⟩)
  return if Exchange.isServerError m.reply.status || Exchange.isClientError m.reply.status
    then m.withoutReport else m

def around (r : Request) (handler : Context → Action Outbound) : Action Outbound :=
  identified r fun context => logged r (some context) (handler context)

end Layers

/-- The response of the service to a request. -/
def Site.outbound (s : Site) (r : Request) : Action Outbound :=
  Layers.around r fun _ => return .ofReply (← s.respond r)

end ClipFeed.Http
