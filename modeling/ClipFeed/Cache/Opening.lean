import ClipFeed.Cache.Settings
import ClipFeed.Log
/-!
Opening the cache. The service starts without a cache rather than not at all: when the server of
the cache cannot be reached in time, nothing is cached. What came of it is logged.
-/

namespace ClipFeed.Cache

inductive Kind where
  | disabled
  | memory
  | redis
  deriving DecidableEq, Repr

def Kind.name : Kind → String
  | .disabled => "disabled"
  | .memory => "memory"
  | .redis => "redis"

/-- A backend in use, and the events that led to it. -/
structure Opening where
  kind : Kind
  events : List Log.Event
  deriving DecidableEq, Repr

namespace Opening

def target : String := "vidfeed::cache"

def backendField (kind : Kind) : String × Log.Datum :=
  ("backend", .quoted kind.name)

def disabled : Opening :=
  ⟨.disabled, [⟨.info, target, "Read-path cache disabled by configuration",
    [backendField .disabled]⟩]⟩

def memory : Opening :=
  ⟨.memory, [⟨.info, target, "No redis_url configured; using in-process cache",
    [backendField .memory]⟩]⟩

/-- What comes of the attempt to reach a server. -/
def ofAttempt : Except Fault Unit → Opening
  | .ok () => ⟨.redis, [⟨.info, "vidfeed::cache::redis", "Connected to redis cache backend", []⟩]⟩
  | .error fault =>
    ⟨.disabled, [⟨.warn, target,
      "Redis unavailable at startup; continuing without read-path cache",
      [backendField .redis, ("error", .text fault.message)]⟩]⟩

end Opening

end ClipFeed.Cache
