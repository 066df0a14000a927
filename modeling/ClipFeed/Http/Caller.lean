import ClipFeed.Http.Refusal
import ClipFeed.Http.Request
import ClipFeed.Text.Blank
import ClipFeed.Text.Integer
import ClipFeed.Viewer
/-!
Who calls, as far as the forwarded header says. No header and a number that is not positive are
an anonymous caller; a header that is no number is malformed.
-/

namespace ClipFeed.Http

inductive Caller where
  | anonymous
  | account (id : Int64)
  | malformed
  deriving DecidableEq, Repr

namespace Caller

def header : String := "x-viewer-id"

def ofViewer : Viewer → Caller
  | .anonymous => .anonymous
  | .account id => .account id

def viewer? (r : Request) : Option Viewer :=
  match r.header? header with
  | none => some .anonymous
  | some value =>
    ((plainText? value).bind fun s => Text.parseInt64? (Text.trim s)).map fun id => .ofRaw (some id)

def ofRequest (r : Request) : Caller :=
  ((viewer? r).map ofViewer).getD .malformed

def kind : Caller → String
  | .anonymous => "anonymous"
  | .account _ => "account"
  | .malformed => "malformed"

def accountId? : Caller → Option Int64
  | .account id => some id
  | _ => none

/-- The viewer of a request, for routes that serve everybody. -/
def viewerOf (r : Request) : Except Refusal Viewer :=
  match viewer? r with
  | some v => .ok v
  | none =>
    .error (.badRequest "Invalid viewer header" (some (header ++ " must be an integer account id")))

/-- The account of a request, for routes that act on behalf of one. -/
def accountOf (r : Request) : Except Refusal Int64 := do
  match (← viewerOf r).accountId? with
  | some id => return id
  | none => throw .unauthorized

end Caller

end ClipFeed.Http
