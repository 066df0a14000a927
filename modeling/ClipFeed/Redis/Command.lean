import ClipFeed.Redis.Refusal
import ClipFeed.Span
import ClipFeed.Text.Bytes
/-!
The Redis commands that a cache needs, each with the type of its answer and the words that are
sent. The release of a lock is a script, named by its digest, so that it runs as one step.
-/

namespace ClipFeed.Redis

open Text

inductive Command where
  | ping
  | get (key : String)
  /-- Stores a value that expires after so many milliseconds. -/
  | set (key : String) (value : Bytes) (ttl : Nat)
  /-- Stores a token that expires, unless something is stored. -/
  | setAbsent (key token : String) (ttl : Nat)
  | delete (key : String)
  /-- Runs the release script. -/
  | release (key token : String)
  /-- Gives the release script to the server. -/
  | loadRelease
  deriving DecidableEq, Repr

/-- Deletes an entry that holds the given token and answers how many were deleted. -/
def releaseScript : String :=
  "\nif redis.call(\"GET\", KEYS[1]) == ARGV[1] then\n    return redis.call(\"DEL\", KEYS[1])\n" ++
    "end\nreturn 0\n"

/-- The SHA-1 digest of the release script. -/
def releaseDigest : String :=
  "fcd526719eedd0c5f180a5c65b23dd95ec369d85"

namespace Command

@[reducible] def Answer : Command → Type
  | .ping => Unit
  | .get _ => Option Bytes
  | .set .. => Unit
  | .setAbsent .. => Bool
  | .delete _ => Nat
  | .release .. => Nat
  | .loadRelease => Unit

@[reducible] def Reply (c : Command) : Type := Except Refusal c.Answer

def name : Command → String
  | .ping => "PING"
  | .get _ => "GET"
  | .set .. | .setAbsent .. => "SET"
  | .delete _ => "DEL"
  | .release .. => "EVALSHA"
  | .loadRelease => "SCRIPT"

/-- What follows the name. -/
def arguments : Command → List Bytes
  | .ping => []
  | .get key | .delete key => [bytes key]
  | .set key value ttl => [bytes key, value, bytes "PX", bytes (toString ttl)]
  | .setAbsent key token ttl =>
    [bytes key, bytes token, bytes "NX", bytes "PX", bytes (toString ttl)]
  | .release key token => [bytes releaseDigest, bytes "1", bytes key, bytes token]
  | .loadRelease => [bytes "LOAD", bytes releaseScript]

def words (c : Command) : List Bytes :=
  bytes c.name :: c.arguments

/-- The whole milliseconds of a time to live, at least one and within 64 bits. -/
def expiry (ttl : Span) : Nat :=
  max 1 (min ttl.toMillis (UInt64.size - 1))

end Command

end ClipFeed.Redis
