import ClipFeed.Text.Blank
import ClipFeed.Text.Form
import ClipFeed.Text.Integer
/-!
The query of a feed request. Each of the two fields may be given once; a size that is not a
positive number in range reads as if it were not given.
-/

namespace ClipFeed.Http

open Text

structure FeedQuery where
  limit : Option UInt32
  cursor : Option String
  deriving DecidableEq, Repr

namespace FeedQuery

def parseLimit? (s : String) : Option UInt32 :=
  match parseInt64? (trim s) with
  | some n =>
    if 0 < n.toInt && n.toInt < UInt32.size then some (UInt32.ofNat n.toNatClampNeg) else none
  | none => none

structure Draft where
  limit : Option String
  cursor : Option String

def add (d : Draft) : String × String → Except String Draft
  | (name, value) =>
    if name = "limit" then
      if d.limit.isSome then .error "duplicate field `limit`"
      else .ok { d with limit := some value }
    else if name = "cursor" then
      if d.cursor.isSome then .error "duplicate field `cursor`"
      else .ok { d with cursor := some value }
    else .ok d

def ofQuery (query : Option String) : Except String FeedQuery :=
  match (Form.pairs (query.getD "")).foldlM add ⟨none, none⟩ with
  | .ok d => .ok ⟨d.limit.bind parseLimit?, d.cursor⟩
  | .error reason => .error ("Failed to deserialize query string: " ++ reason)

end FeedQuery

end ClipFeed.Http
