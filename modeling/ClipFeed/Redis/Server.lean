import ClipFeed.Redis.Command
/-!
A server as far as the commands of a cache can tell. What is stored is gone when its time has come.
The server can be made to refuse commands by name; a refused command changes nothing.
-/

namespace ClipFeed.Redis

open Text

structure Server where
  clock : Span
  /-- Values by key, each with the time at which it expires. -/
  values : List (String × Bytes × Span)
  /-- Whether the release script has been loaded. -/
  scripted : Bool
  refusals : List (String × Refusal)
  deriving DecidableEq, Repr

namespace Server

def empty : Server := ⟨0, [], false, []⟩

def atTime (s : Server) (now : Span) : Server := { s with clock := now }

/-- The value of a key with its expiry, unless it has expired by then. -/
def live? (s : Server) (now : Span) (key : String) : Option (Bytes × Span) :=
  (s.values.lookup key).filter fun (_, expiresAt) => now < expiresAt

def value? (s : Server) (key : String) : Option Bytes :=
  (s.live? s.clock key).map (·.1)

def erase (s : Server) (key : String) : Server :=
  { s with values := s.values.filter fun (k, _) => k != key }

def insert (s : Server) (key : String) (value : Bytes) (ttl : Nat) : Server :=
  { s with values := (key, value, s.clock + .millis ttl) :: (s.erase key).values }

/-- The server with the refusal of one command replaced or removed. -/
def refuse (s : Server) (name : String) (refusal : Option Refusal) : Server :=
  let kept := s.refusals.filter fun (n, _) => n != name
  { s with refusals := match refusal with
      | some r => (name, r) :: kept
      | none => kept }

def delete (s : Server) (key : String) : Nat × Server :=
  if (s.value? key).isSome then (1, s.erase key) else (0, s)

/-- What a server does that refuses nothing by name. -/
def execute (s : Server) : (c : Command) → c.Reply × Server
  | .ping => (.ok (), s)
  | .get key => (.ok (s.value? key), s)
  | .set key value ttl => (.ok (), s.insert key value ttl)
  | .setAbsent key token ttl =>
    if (s.value? key).isSome then (.ok false, s) else (.ok true, s.insert key (bytes token) ttl)
  | .delete key => let (n, s) := s.delete key; (.ok n, s)
  | .release key token =>
    if s.scripted then
      if s.value? key = some (bytes token) then let (n, s) := s.delete key; (.ok n, s)
      else (.ok 0, s)
    else (.error .missingScript, s)
  | .loadRelease => (.ok (), { s with scripted := true })

def perform (s : Server) (c : Command) : c.Reply × Server :=
  match s.refusals.lookup c.name with
  | some refusal => (.error refusal, s)
  | none => s.execute c

end Server

end ClipFeed.Redis
