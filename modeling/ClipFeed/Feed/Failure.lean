import ClipFeed.Feed.Cursor
import ClipFeed.Store.Fault
/-!
Why a feed request has no page.
-/

namespace ClipFeed.Feed

inductive Failure where
  | cursor (fault : CursorFault)
  | store (fault : Store.Fault)
  deriving DecidableEq, Repr

/-- What is said of a failure. A store fault speaks for itself. -/
def Failure.message : Failure → String
  | .cursor f => "invalid cursor: " ++ f.message
  | .store f => f.message

def Failure.chain (f : Failure) : List String :=
  f.message :: match f with
    | .cursor f => [f.message]
    | .store _ => []

end ClipFeed.Feed
