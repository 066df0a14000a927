import ClipFeed.Cache.Gateway
/-!
Settings of the read path: time budgets, polling and the lifetimes for pages and single videos.
-/

namespace ClipFeed.Cache

structure Settings where
  enabled : Bool
  redisUrl : Option String
  opTimeoutMs : Nat
  pollAttempts : Nat
  pollIntervalMs : Nat
  listTtlSecs : Nat
  listLockTtlMs : Nat
  detailTtlSecs : Nat
  detailLockTtlMs : Nat
  deriving DecidableEq, Repr

namespace Settings

def standard : Settings where
  enabled := true
  redisUrl := none
  opTimeoutMs := 50
  pollAttempts := 5
  pollIntervalMs := 20
  listTtlSecs := 5
  listLockTtlMs := 500
  detailTtlSecs := 300
  detailLockTtlMs := 2000

/-- Pages live shortly, since nobody evicts them. -/
def listPolicy (s : Settings) : Policy :=
  ⟨.seconds s.listTtlSecs, .millis s.listLockTtlMs⟩

/-- Single videos live long and are evicted whenever they change. -/
def detailPolicy (s : Settings) : Policy :=
  ⟨.seconds s.detailTtlSecs, .millis s.detailLockTtlMs⟩

def gateway (s : Settings) (backend : String) : Gateway :=
  ⟨backend, .millis s.opTimeoutMs, s.pollAttempts, .millis s.pollIntervalMs⟩

inductive Choice where
  | disabled
  | memory
  | redis (url : String)
  deriving DecidableEq, Repr

def choice (s : Settings) : Choice :=
  if s.enabled then
    match s.redisUrl with
    | some url => .redis url
    | none => .memory
  else .disabled

end Settings

end ClipFeed.Cache
