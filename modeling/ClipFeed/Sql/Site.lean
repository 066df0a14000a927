import ClipFeed.Cache.Settings
import ClipFeed.Http.Exchange
import ClipFeed.Sql.Store
/-!
The service directly over a database: nothing is cached, and every question to the store becomes
statements.
-/

namespace ClipFeed.Sql

/-- The answer to an effect when the database is the store and no cache is attached. Nobody waits
and nobody listens. -/
def answer (requestId : String) : (e : Effect) → Session e.Answer
  | .cache _ call => return .answered call.disabledAnswer
  | .store call => Session.perform call
  | .probe => Session.probe
  | .sleep _ => return ()
  | .lockToken => return ""
  | .requestId => return requestId
  | .hold _ => return ()
  | .unhold => return ()
  | .count _ => return ()
  | .log _ => return ()
  | .note _ => return ()

def serve {α : Type} (requestId : String) (action : Action α) : Session α :=
  action.refine (answer requestId)

end ClipFeed.Sql
