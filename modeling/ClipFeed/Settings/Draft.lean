import ClipFeed.Settings.Reading
/-!
Settings as they were given: any of them may be missing, and none has been checked. What the
command line says takes the place of what the sources say.
-/

namespace ClipFeed.Settings

structure Draft.Server where
  host : Option String
  port : Option UInt16
  gracefulShutdownSecs : Option Nat
  deriving DecidableEq, Repr

structure Draft.Logging where
  level : Option String
  json : Option Bool
  deriving DecidableEq, Repr

structure Draft.Database where
  url : Option String
  maxConnections : Option UInt32
  deriving DecidableEq, Repr

structure Draft.Cache where
  enabled : Option Bool
  redisUrl : Option String
  opTimeoutMs : Option Nat
  pollAttempts : Option Nat
  pollIntervalMs : Option Nat
  listTtlSecs : Option Nat
  listLockTtlMs : Option Nat
  detailTtlSecs : Option Nat
  detailLockTtlMs : Option Nat
  deriving DecidableEq, Repr

structure Draft.Feed where
  defaultLimit : Option UInt32
  maxLimit : Option UInt32
  deriving DecidableEq, Repr

structure Draft where
  server : Draft.Server
  logging : Draft.Logging
  database : Draft.Database
  cache : Draft.Cache
  feed : Draft.Feed
  deriving DecidableEq, Repr

namespace Draft

open Node

def empty : Draft :=
  ⟨⟨none, none, none⟩, ⟨none, none⟩, ⟨none, none⟩,
    ⟨none, none, none, none, none, none, none, none, none⟩, ⟨none, none⟩⟩

def readWord32 : Read UInt32 := fun n => return UInt32.ofNat (← n.readWord 32)

def Server.read : Read Server := fun n => do
  let r ← n.readRecord "RawServerSettings"
  return {
    host := ← r.optional 0 "host" readText
    port := (← r.optional 1 "port" (readWord 16)).map UInt16.ofNat
    gracefulShutdownSecs := ← r.optional 2 "graceful_shutdown_seconds" (readWord 64) }

def Logging.read : Read Logging := fun n => do
  let r ← n.readRecord "RawLoggingSettings"
  return { level := ← r.optional 0 "level" readText, json := ← r.optional 1 "json" readFlag }

def Database.read : Read Database := fun n => do
  let r ← n.readRecord "RawDatabaseSettings"
  return {
    url := ← r.optional 0 "url" readText
    maxConnections := ← r.optional 1 "max_connections" readWord32 }

def Cache.read : Read Cache := fun n => do
  let r ← n.readRecord "RawCacheSettings"
  return {
    enabled := ← r.optional 0 "enabled" readFlag
    redisUrl := ← r.optional 1 "redis_url" readText
    opTimeoutMs := ← r.optional 2 "op_timeout_ms" (readWord 64)
    pollAttempts := ← r.optional 3 "poll_attempts" (readWord 32)
    pollIntervalMs := ← r.optional 4 "poll_interval_ms" (readWord 64)
    listTtlSecs := ← r.optional 5 "list_ttl_secs" (readWord 64)
    listLockTtlMs := ← r.optional 6 "list_lock_ttl_ms" (readWord 64)
    detailTtlSecs := ← r.optional 7 "detail_ttl_secs" (readWord 64)
    detailLockTtlMs := ← r.optional 8 "detail_lock_ttl_ms" (readWord 64) }

def Feed.read : Read Feed := fun n => do
  let r ← n.readRecord "RawFeedSettings"
  return {
    defaultLimit := ← r.optional 0 "default_limit" readWord32
    maxLimit := ← r.optional 1 "max_limit" readWord32 }

def read : Read Draft := fun n => do
  let r ← n.readRecord "RawSettings"
  return {
    server := ← r.get 0 "server" empty.server Server.read
    logging := ← r.get 1 "logging" empty.logging Logging.read
    database := ← r.get 2 "database" empty.database Database.read
    cache := ← r.get 3 "cache" empty.cache Cache.read
    feed := ← r.get 4 "feed" empty.feed Feed.read }

end Draft

/-- What the command line may say about the settings. -/
structure Overrides where
  host : Option String
  port : Option UInt16
  level : Option String
  json : Option Bool
  databaseUrl : Option String
  maxConnections : Option UInt32
  cacheEnabled : Option Bool
  redisUrl : Option String
  deriving DecidableEq, Repr

def Overrides.none : Overrides :=
  ⟨.none, .none, .none, .none, .none, .none, .none, .none⟩

/-- The settings with what the command line says. -/
def Draft.override (d : Draft) (o : Overrides) : Draft where
  server := { d.server with host := o.host <|> d.server.host, port := o.port <|> d.server.port }
  logging := ⟨o.level <|> d.logging.level, o.json <|> d.logging.json⟩
  database :=
    ⟨o.databaseUrl <|> d.database.url, o.maxConnections <|> d.database.maxConnections⟩
  cache := { d.cache with
    enabled := o.cacheEnabled <|> d.cache.enabled, redisUrl := o.redisUrl <|> d.cache.redisUrl }
  feed := d.feed

end ClipFeed.Settings
