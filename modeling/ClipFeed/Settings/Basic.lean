import ClipFeed.Cache.Settings
import ClipFeed.Feed.Limits
import ClipFeed.Log.Threshold
import ClipFeed.Net.Address
import ClipFeed.Settings.Draft
import ClipFeed.Text.Blank
/-!
Settings that the service can run with. Checking fills in what was not given and reports the first
setting that cannot stand, in a fixed order.
-/

namespace ClipFeed

open Settings

structure Settings where
  address : Net.Address
  gracefulShutdownSecs : Nat
  threshold : Log.Threshold
  /-- Whether log lines are JSON. -/
  json : Bool
  databaseUrl : Option String
  maxConnections : UInt32
  cache : Cache.Settings
  limits : Feed.Limits
  deriving DecidableEq, Repr

namespace Settings

/-- The settings that must not be zero. -/
inductive Positive where
  | gracefulShutdown
  | maxConnections
  | opTimeout
  | pollInterval
  | listTtl
  | listLockTtl
  | detailTtl
  | detailLockTtl
  | defaultLimit
  deriving DecidableEq, Repr

def Positive.key : Positive → String
  | .gracefulShutdown => "server.graceful_shutdown_seconds"
  | .maxConnections => "database.max_connections"
  | .opTimeout => "cache.op_timeout_ms"
  | .pollInterval => "cache.poll_interval_ms"
  | .listTtl => "cache.list_ttl_secs"
  | .listLockTtl => "cache.list_lock_ttl_ms"
  | .detailTtl => "cache.detail_ttl_secs"
  | .detailLockTtl => "cache.detail_lock_ttl_ms"
  | .defaultLimit => "feed.default_limit"

/-- Why settings cannot stand. -/
inductive Violation where
  | portZero
  | address (text : String)
  | zero (setting : Positive)
  | level
  | limitAbove (max : UInt32)
  deriving DecidableEq, Repr

namespace Violation

def key : Violation → String
  | .portZero => "server.port"
  | .address _ => "server.addr"
  | .zero setting => setting.key
  | .level => "logging.level"
  | .limitAbove _ => Positive.defaultLimit.key

def reason : Violation → String
  | .portZero => "port must be greater than zero"
  | .address text => "invalid address `" ++ text ++ "`: invalid socket address syntax"
  | .zero _ => "must be greater than zero"
  | .level =>
    "failed to parse: error parsing level filter: expected one of \"off\", \"error\", \"warn\", " ++
      "\"info\", \"debug\", \"trace\", or a number 0-5"
  | .limitAbove max => "must not exceed feed.max_limit (" ++ toString max ++ ")"

def message (v : Violation) : String :=
  "invalid configuration for `" ++ v.key ++ "`: " ++ v.reason

end Violation

def defaultHost : String := "127.0.0.1"
def defaultPort : UInt16 := 8080
def defaultGracefulShutdownSecs : Nat := 30
def defaultMaxConnections : UInt32 := 10

def positive (setting : Positive) (n : Nat) : Except Violation Nat :=
  if n = 0 then .error (.zero setting) else .ok n

def checkAddress (s : Draft.Server) : Except Violation Net.Address := do
  let port := s.port.getD defaultPort
  if port = 0 then throw .portZero
  let text := s.host.getD defaultHost ++ ":" ++ toString port
  match Net.Address.parse? text with
  | some address => return address
  | none => throw (.address text)

def checkThreshold (l : Draft.Logging) : Except Violation Log.Threshold :=
  match l.level with
  | none => .ok (.atLeast .info)
  | some text =>
    match Log.Threshold.parse? text with
    | some threshold => .ok threshold
    | none => .error .level

def checkCache (c : Draft.Cache) : Except Violation Cache.Settings := do
  let d := Cache.Settings.standard
  return {
    enabled := c.enabled.getD d.enabled
    redisUrl := c.redisUrl.bind Text.trimmed?
    opTimeoutMs := ← positive .opTimeout (c.opTimeoutMs.getD d.opTimeoutMs)
    pollAttempts := c.pollAttempts.getD d.pollAttempts
    pollIntervalMs := ← positive .pollInterval (c.pollIntervalMs.getD d.pollIntervalMs)
    listTtlSecs := ← positive .listTtl (c.listTtlSecs.getD d.listTtlSecs)
    listLockTtlMs := ← positive .listLockTtl (c.listLockTtlMs.getD d.listLockTtlMs)
    detailTtlSecs := ← positive .detailTtl (c.detailTtlSecs.getD d.detailTtlSecs)
    detailLockTtlMs := ← positive .detailLockTtl (c.detailLockTtlMs.getD d.detailLockTtlMs) }

def checkLimits (f : Draft.Feed) : Except Violation Feed.Limits := do
  let default := f.defaultLimit.getD Feed.Limits.standard.default
  let max := f.maxLimit.getD Feed.Limits.standard.max
  if default = 0 then throw (.zero .defaultLimit)
  if max < default then throw (.limitAbove max)
  return ⟨default, max⟩

def ofDraft (d : Draft) : Except Violation Settings := do
  let address ← checkAddress d.server
  let shutdown ← positive .gracefulShutdown
    (d.server.gracefulShutdownSecs.getD defaultGracefulShutdownSecs)
  let threshold ← checkThreshold d.logging
  let connections := d.database.maxConnections.getD defaultMaxConnections
  let _ ← positive .maxConnections connections.toNat
  let cache ← checkCache d.cache
  let limits ← checkLimits d.feed
  return ⟨address, shutdown, threshold, d.logging.json.getD false,
    d.database.url.bind Text.trimmed?, connections, cache, limits⟩

end Settings

end ClipFeed
