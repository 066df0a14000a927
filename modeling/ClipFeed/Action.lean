import ClipFeed.Cache.Call
import ClipFeed.Cache.Metric
import ClipFeed.Dialogue
import ClipFeed.Log
import ClipFeed.Sql.Failure
import ClipFeed.Store.Call
/-!
Actions: dialogues of the service with its surroundings. Between two questions an action does
nothing that others could see, and it may be dropped only while it waits for an answer.
-/

namespace ClipFeed

/-- What an operation asks of its surroundings. -/
inductive Effect where
  /-- A cache call that is given up after a time. -/
  | cache (limit : Span) (call : Cache.Call)
  | store (call : Store.Call)
  /-- Whether the store can be reached at all. -/
  | probe
  | sleep (span : Span)
  /-- A lock token that nobody else has. -/
  | lockToken
  /-- A request identifier that nobody else has. -/
  | requestId
  /-- From here on dropping the operation has to release the lock. -/
  | hold (lock : Cache.Lock)
  /-- From here on nothing has to be released. -/
  | unhold
  | count (metric : Cache.Metric)
  | log (event : Log.Event)
  /-- A remark for whoever follows the operation. -/
  | note (label : String)
  deriving DecidableEq, Repr

namespace Effect

@[reducible] def Answer : Effect → Type
  | .cache _ call => Cache.Reply call.Answer
  | .store call => Except Store.Fault call.Answer
  | .probe => Except Sql.Failure Unit
  | .sleep _ => Unit
  | .lockToken => String
  | .requestId => String
  | .hold _ => Unit
  | .unhold => Unit
  | .count _ => Unit
  | .log _ => Unit
  | .note _ => Unit

end Effect

abbrev Action := Dialogue Effect Effect.Answer

namespace Action

def ask (e : Effect) : Action e.Answer := Dialogue.request e

def store (call : Store.Call) : Action (Except Store.Fault call.Answer) := ask (.store call)
def sleep (span : Span) : Action Unit := ask (.sleep span)
def count (metric : Cache.Metric) : Action Unit := ask (.count metric)
def log (event : Log.Event) : Action Unit := ask (.log event)

end Action

end ClipFeed
