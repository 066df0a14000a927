import ClipFeed.Cache.Call
/-!
A cache inside the process. An entry lives while the time is before its expiry; an expired entry
reads as a miss, and whoever finds it removes it.
-/

namespace ClipFeed.Cache

open Text

structure Entry where
  bytes : Bytes
  expiresAt : Span
  deriving DecidableEq, Repr

def Entry.isLive (e : Entry) (now : Span) : Bool :=
  now < e.expiresAt

/-- Entries by key; a key occurs at most once. -/
structure Memory where
  entries : List (String × Entry)
  deriving DecidableEq, Repr

namespace Memory

def empty : Memory := ⟨[]⟩

def entry? (m : Memory) (key : String) : Option Entry :=
  m.entries.lookup key

def erase (m : Memory) (key : String) : Memory :=
  ⟨m.entries.filter fun (k, _) => k != key⟩

def insert (m : Memory) (key : String) (e : Entry) : Memory :=
  ⟨(key, e) :: (m.erase key).entries⟩

/-- What a lookup sees before it decides whether to clean up. -/
inductive Sight where
  | live (bytes : Bytes)
  | expired
  | absent
  deriving DecidableEq, Repr

def look (m : Memory) (now : Span) (key : String) : Sight :=
  match m.entry? key with
  | some e => if e.isLive now then .live e.bytes else .expired
  | none => .absent

/-- Removes the entry if it has expired by then. -/
def purge (m : Memory) (now : Span) (key : String) : Memory :=
  match m.entry? key with
  | some e => if e.isLive now then m else m.erase key
  | none => m

def get (m : Memory) (now : Span) (key : String) : Option Bytes × Memory :=
  match m.look now key with
  | .live bytes => (some bytes, m)
  | .expired => (none, m.purge now key)
  | .absent => (none, m)

def set (m : Memory) (now : Span) (key : String) (value : Bytes) (ttl : Span) : Memory :=
  m.insert key ⟨value, now + ttl⟩

def setIfAbsent (m : Memory) (now : Span) (key token : String) (ttl : Span) : Bool × Memory :=
  match m.look now key with
  | .live _ => (false, m)
  | _ => (true, m.insert key ⟨bytes token, now + ttl⟩)

def deleteIfEquals (m : Memory) (now : Span) (key token : String) : Bool × Memory :=
  match m.look now key with
  | .live value => if value = bytes token then (true, m.erase key) else (false, m)
  | _ => (false, m)

def contains (m : Memory) (now : Span) (key : String) : Bool :=
  match m.look now key with
  | .live _ => true
  | _ => false

def size (m : Memory) (now : Span) : Nat :=
  m.entries.countP fun (_, e) => e.isLive now

/-- The answer to a call and the entries behind it. -/
def perform (m : Memory) (now : Span) : (call : Call) → call.Answer × Memory
  | .get key => m.get now key
  | .set key value ttl => ((), m.set now key value ttl)
  | .delete key => ((), m.erase key)
  | .setIfAbsent key token ttl => m.setIfAbsent now key token ttl
  | .deleteIfEquals key token => m.deleteIfEquals now key token

end Memory

end ClipFeed.Cache
