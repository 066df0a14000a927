import ClipFeed.Cache.Memory
/-!
Backends inside the process: one that keeps entries and one that keeps none. The latter misses
every lookup and grants every lock, so that nobody waits for an entry that cannot come.
-/

namespace ClipFeed.Cache

inductive Backend where
  | disabled
  | memory (entries : Memory)
  deriving DecidableEq, Repr

namespace Backend

def name : Backend → String
  | .disabled => "disabled"
  | .memory _ => "memory"

def perform (b : Backend) (now : Span) (call : Call) : call.Answer × Backend :=
  match b with
  | .disabled => (call.disabledAnswer, .disabled)
  | .memory m => let (answer, m) := m.perform now call; (answer, .memory m)

def entries? : Backend → Option Memory
  | .disabled => none
  | .memory m => some m

end Backend

end ClipFeed.Cache
