import ClipFeed.Http.Refusal
/-!
Replies: what is sent, with the report that is kept for the log.
-/

namespace ClipFeed.Http

open Text

structure Reply where
  status : Nat
  contentType : Option String
  /-- The methods that a route offers. -/
  allow : Option String
  body : Bytes
  report : Option Report
  deriving DecidableEq, Repr

namespace Reply

def empty (status : Nat) : Reply :=
  ⟨status, none, none, [], none⟩

def plain (status : Nat) (text : String) : Reply :=
  ⟨status, some "text/plain; charset=utf-8", none, bytes text, none⟩

def json (status : Nat) (value : Json.Value) : Reply :=
  ⟨status, some "application/json", none, value.print, none⟩

def refused (r : Refusal) : Reply :=
  { json r.status r.body with report := some r.report }

def notAllowed (methods : List String) : Reply :=
  { empty 405 with allow := some (String.intercalate "," methods) }

/-- The reply to a request for the head alone. -/
def withoutBody (r : Reply) : Reply :=
  { r with body := [] }

end Reply

end ClipFeed.Http
