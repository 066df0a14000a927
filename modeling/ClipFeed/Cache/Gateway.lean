import ClipFeed.Action
import ClipFeed.Cache.Codec
import ClipFeed.Cache.Key
/-!
Reading through the cache. A hit is answered from the entry. On a miss one caller per key takes a
short-lived lock, looks again, computes and fills the entry; callers that find the lock taken look
for the entry a few times and then compute on their own. Faults of the cache read as misses.
-/

namespace ClipFeed.Cache

open Text

/-- Lifetimes of an entry and of the lock that guards its backfill. -/
structure Policy where
  ttl : Span
  lockTtl : Span
  deriving DecidableEq, Repr

structure Gateway where
  backend : String
  opTimeout : Span
  pollAttempts : Nat
  pollInterval : Span
  deriving DecidableEq, Repr

namespace Gateway

def target : String := "vidfeed::cache::gateway"

def describe (g : Gateway) : String :=
  "CacheGateway \x7b backend: \"" ++ g.backend ++ "\", op_timeout: " ++ g.opTimeout.render ++
    ", poll_attempts: " ++ toString g.pollAttempts ++ ", poll_interval: " ++
    g.pollInterval.render ++ " \x7d"

/-- A call under the time limit; running out of it is a fault. -/
def guarded (g : Gateway) (call : Call) : Action (Except Fault call.Answer) := do
  match ← Action.ask (.cache g.opTimeout call) with
  | .answered a => return .ok a
  | .failed fault => return .error fault
  | .silent => return .error (.timeout call.operation)

def noteFault (key : Key) (operation : String) (fault : Fault) : Action Unit := do
  Action.count .error
  Action.log ⟨.debug, target, "cache operation failed; treating as miss",
    [("cache_key", .text key.name), ("op", .quoted operation), ("error", .text fault.message)]⟩

/-- The value of the entry, if there is one that can be read. -/
def read {α : Type} (g : Gateway) (codec : Codec α) (key : Key) : Action (Option α) := do
  match ← g.guarded (.get key.name) with
  | .ok none => return none
  | .ok (some bytes) =>
    match codec.decode bytes with
    | .ok value => return some value
    | .error reason =>
      noteFault key "decode" (.codec reason)
      return none
  | .error fault =>
    noteFault key "get" fault
    return none

/-- Fills the entry. A value without a written form leaves it alone. -/
def write {α : Type} (g : Gateway) (codec : Codec α) (key : Key) (value : α) (ttl : Span) :
    Action Unit := do
  match codec.encode value with
  | .error reason => noteFault key "encode" (.codec reason)
  | .ok bytes =>
    match ← g.guarded (.set key.name bytes ttl) with
    | .ok () => return ()
    | .error fault =>
      Action.count .error
      Action.log ⟨.warn, target, "cache backfill failed",
        [("cache_key", .text key.name), ("backend", .quoted g.backend), ("op", .quoted "set"),
          ("error", .text fault.message)]⟩

def releaseLock (g : Gateway) (lock : Lock) : Action Unit := do
  match ← g.guarded (.deleteIfEquals lock.key lock.token) with
  | .ok true => return ()
  | .ok false =>
    Action.log ⟨.debug, target, "lock expired or changed hands before release",
      [("lock_key", .quoted lock.key)]⟩
  | .error fault =>
    Action.count .error
    Action.log ⟨.warn, target, "lock release failed; it will expire by TTL",
      [("lock_key", .quoted lock.key), ("backend", .quoted g.backend),
        ("error", .text fault.message)]⟩

/-- Releases a held lock. Once begun, the release is not repeated when it is dropped. -/
def release (g : Gateway) (lock : Lock) : Action Unit := do
  Action.ask .unhold
  g.releaseLock lock

inductive LockAttempt where
  | acquired (lock : Lock)
  | contended
  | unavailable
  deriving DecidableEq, Repr

def tryLock (g : Gateway) (key : Key) (ttl : Span) : Action LockAttempt := do
  let token ← Action.ask .lockToken
  match ← g.guarded (.setIfAbsent key.lockName token ttl) with
  | .ok true =>
    let lock : Lock := ⟨key.lockName, token⟩
    Action.ask (.hold lock)
    return .acquired lock
  | .ok false => return .contended
  | .error fault =>
    noteFault key "set_if_absent" fault
    return .unavailable

def lookup (key : Key) (more : List (String × Log.Datum)) (result : String) : Action Unit :=
  Action.log ⟨.debug, target, "cache lookup",
    ("cache_key", .text key.name) :: more ++ [("result", .quoted result)]⟩

/-- The computation, with its duration sampled once it is over. -/
def timed {β : Type} (compute : Action β) : Action β := do
  let outcome ← compute
  Action.count .compute
  return outcome

/-- Computes and fills the entry when that went well. -/
def computeAndFill {α ε : Type} (g : Gateway) (codec : Codec α) (key : Key) (policy : Policy)
    (compute : Action (Except ε α)) : Action (Except ε α) := do
  let outcome ← timed compute
  match outcome with
  | .ok value => g.write codec key value policy.ttl
  | .error _ => return outcome
  return outcome

/-- The way of the caller that holds the lock: look again, else compute and fill; then release. -/
def underLock {α ε : Type} (g : Gateway) (codec : Codec α) (key : Key) (policy : Policy)
    (compute : Action (Except ε α)) (lock : Lock) : Action (Except ε α) := do
  Action.count .lockAcquired
  match ← g.read codec key with
  | some value =>
    Action.count .hit
    lookup key [] "hit_after_lock"
    g.release lock
    return .ok value
  | none =>
    let outcome ← g.computeAndFill codec key policy compute
    g.release lock
    return outcome

/-- Looks for the entry up to `left` more times, with a pause before each. -/
def poll {α : Type} (g : Gateway) (codec : Codec α) (key : Key) (attempt : Nat) :
    (left : Nat) → Action (Option α)
  | 0 => return none
  | left + 1 => do
    Action.sleep g.pollInterval
    match ← g.read codec key with
    | some value =>
      Action.count .hit
      lookup key [("attempt", .number attempt)] "hit_after_poll"
      return some value
    | none => g.poll codec key (attempt + 1) left

/-- The way of a caller that found the lock taken. -/
def behindLock {α ε : Type} (g : Gateway) (codec : Codec α) (key : Key) (policy : Policy)
    (compute : Action (Except ε α)) : Action (Except ε α) := do
  Action.count .lockContended
  match ← g.poll codec key 1 g.pollAttempts with
  | some value => return .ok value
  | none =>
    Action.count .fallback
    Action.log ⟨.debug, target, "lock holder did not backfill in time; computing directly",
      [("cache_key", .text key.name), ("attempts", .number g.pollAttempts)]⟩
    g.computeAndFill codec key policy compute

/-- The cached value of a key, or the computed one. A failure of the computation is passed on and
never kept; faults of the cache are never passed on. -/
def resolve {α ε : Type} (g : Gateway) (codec : Codec α) (key : Key) (policy : Policy)
    (compute : Action (Except ε α)) : Action (Except ε α) := do
  match ← g.read codec key with
  | some value =>
    Action.count .hit
    lookup key [] "hit"
    return .ok value
  | none =>
    Action.count .miss
    lookup key [] "miss"
    match ← g.tryLock key policy.lockTtl with
    | .acquired lock => g.underLock codec key policy compute lock
    | .contended => g.behindLock codec key policy compute
    | .unavailable =>
      Action.count .fallback
      timed compute

def evictionTarget : String := "vidfeed::cache::invalidation"

/-- Removes an entry as well as it can; a failure is only noted. -/
def evict (g : Gateway) (key : Key) : Action Unit := do
  match ← Action.ask (.cache g.opTimeout (.delete key.name)) with
  | .answered () =>
    Action.count .evict
    Action.log ⟨.debug, evictionTarget, "evicted cache entry", [("cache_key", .text key.name)]⟩
  | .failed fault =>
    Action.count .error
    Action.log ⟨.warn, evictionTarget, "cache eviction failed",
      [("cache_key", .text key.name), ("backend", .quoted g.backend),
        ("error", .text fault.message)]⟩
  | .silent =>
    Action.count .error
    Action.log ⟨.warn, evictionTarget, "cache eviction timed out",
      [("cache_key", .text key.name), ("backend", .quoted g.backend),
        ("timeout_ms", .number g.opTimeout.toMillis)]⟩

/-- What has to be done once a video is no longer what it was. -/
def videoChanged (g : Gateway) (id : Int64) : Action Unit :=
  g.evict (.video id)

end Gateway

end ClipFeed.Cache
