/-!
Page sizes. A request for one row up to the maximum is granted; anything else gets the default.
-/

namespace ClipFeed.Feed

structure Limits where
  default : UInt32
  max : UInt32
  deriving DecidableEq, Repr

namespace Limits

def standard : Limits := ⟨10, 50⟩

def clamp (l : Limits) : Option UInt32 → UInt32
  | some n => if 1 ≤ n && n ≤ l.max then n else l.default
  | none => l.default

end Limits

end ClipFeed.Feed
