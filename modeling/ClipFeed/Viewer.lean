import ClipFeed.Json.Value
/-!
Who reads. Only a positive account number identifies an account; everything else is anonymous.
-/

namespace ClipFeed

inductive Viewer where
  | anonymous
  | account (id : Int64)
  deriving DecidableEq, Repr

namespace Viewer

def ofRaw : Option Int64 → Viewer
  | some id => if 0 < id then .account id else .anonymous
  | none => .anonymous

def accountId? : Viewer → Option Int64
  | .account id => some id
  | .anonymous => none

def isAnonymous (v : Viewer) : Bool :=
  v.accountId?.isNone

def toJson : Viewer → Json.Value
  | .anonymous => .text "Anonymous"
  | .account id => .object [("Account", .int64 id)]

theorem accountId?_ofRaw (id : Int64) :
    (ofRaw (some id)).accountId? = if 0 < id then some id else none := by
  by_cases positive : 0 < id <;> simp [ofRaw, positive, accountId?]

end Viewer

end ClipFeed
