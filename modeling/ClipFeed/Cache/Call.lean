import ClipFeed.Cache.Fault
import ClipFeed.Span
import ClipFeed.Text.Bytes
/-!
The five operations of a cache. A miss is an answer, never a fault; the last two are atomic and
serve as a lock.
-/

namespace ClipFeed.Cache

open Text

inductive Call where
  | get (key : String)
  | set (key : String) (value : Bytes) (ttl : Span)
  | delete (key : String)
  /-- Stores the token only when nothing is stored; answers whether it did. -/
  | setIfAbsent (key token : String) (ttl : Span)
  /-- Deletes only the given token; answers whether it did. -/
  | deleteIfEquals (key token : String)
  deriving DecidableEq, Repr

namespace Call

@[reducible] def Answer : Call → Type
  | .get _ => Option Bytes
  | .set .. => Unit
  | .delete _ => Unit
  | .setIfAbsent .. => Bool
  | .deleteIfEquals .. => Bool

def operation : Call → String
  | .get _ => "get"
  | .set .. => "set"
  | .delete _ => "delete"
  | .setIfAbsent .. => "set_if_absent"
  | .deleteIfEquals .. => "delete_if_equals"

def key : Call → String
  | .get key | .set key .. | .delete key | .setIfAbsent key .. | .deleteIfEquals key _ => key

/-- The answer of a cache that holds nothing: every lookup misses and every lock is granted. -/
def disabledAnswer : (call : Call) → call.Answer
  | .get _ => none
  | .set .. => ()
  | .delete _ => ()
  | .setIfAbsent .. => true
  | .deleteIfEquals .. => true

end Call

/-- What comes back from a call within its time limit. -/
inductive Reply (α : Type) where
  | answered (a : α)
  | failed (fault : Fault)
  | silent
  deriving DecidableEq, Repr

/-- A lock is its entry together with the token that marks the holder. -/
structure Lock where
  key : String
  token : String
  deriving DecidableEq, Repr

end ClipFeed.Cache
