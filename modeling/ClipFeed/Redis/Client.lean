import ClipFeed.Cache.Call
import ClipFeed.Dialogue
import ClipFeed.Redis.Command
/-!
Cache calls over Redis. Every call is a single command, but a server that has lost the release
script is given it once more and asked again.
-/

namespace ClipFeed.Redis

abbrev Session := Dialogue Command Command.Reply

namespace Session

def send (c : Command) : Session c.Reply :=
  Dialogue.request c

def fault (r : Refusal) : Cache.Fault :=
  .backend r.message

/-- Whether a server answers at all. -/
def greet : Session (Except Cache.Fault Unit) :=
  return (← send .ping).mapError fault

/-- Runs the release script, which the server may have to be given first. -/
def release (key token : String) : Session (Command.Reply (.release key token)) := do
  match ← send (.release key token) with
  | .ok deleted => return .ok deleted
  | .error refusal =>
    if refusal.isMissingScript then
      match ← send .loadRelease with
      | .ok () => send (.release key token)
      | .error refusal => return .error refusal
    else return .error refusal

def perform : (call : Cache.Call) → Session (Except Cache.Fault call.Answer)
  | .get key => return (← send (.get key)).mapError fault
  | .set key value ttl => return (← send (.set key value (Command.expiry ttl))).mapError fault
  | .delete key => return ((← send (.delete key)).map fun _ => ()).mapError fault
  | .setIfAbsent key token ttl =>
    return (← send (.setAbsent key token (Command.expiry ttl))).mapError fault
  | .deleteIfEquals key token =>
    return ((← release key token).map (· == 1)).mapError fault

end Session

end ClipFeed.Redis
