import ClipFeed.Feed.Failure
import ClipFeed.Json.Value
import ClipFeed.Video.Failure
/-!
Refused requests: the status, the JSON envelope with a stable code, and the report that is kept
for the log. Every failure of a feed or of a video has one refusal.
-/

namespace ClipFeed.Http

/-- What the log is told about a failing response. -/
structure Report where
  source : String
  status : Nat
  messages : List String
  deriving DecidableEq, Repr

structure Refusal where
  status : Nat
  code : String
  message : String
  hint : Option String
  deriving DecidableEq, Repr

namespace Refusal

def badRequest (message : String) (hint : Option String) : Refusal :=
  ⟨400, "bad_request", message, hint⟩

def unauthorized : Refusal :=
  ⟨401, "unauthorized", "Viewer identity required", none⟩

def forbidden (message : String) : Refusal :=
  ⟨403, "forbidden", message, none⟩

def notFound (message : String) : Refusal :=
  ⟨404, "not_found", message, none⟩

def invalidInput (hint : String) : Refusal :=
  ⟨400, "invalid_input", "Invalid input", some hint⟩

def ofStore : Store.Fault → Refusal
  | .duplicate constraint => ⟨409, "duplicate", "Duplicate record", some constraint⟩
  | .notFound => notFound "Resource not found"
  | .invalidInput detail => invalidInput detail
  | .integrity detail => ⟨409, "integrity_error", "Integrity constraint violated", some detail⟩
  | .timeout => ⟨503, "db_timeout", "Database timeout", none⟩
  | .persistence detail => ⟨500, "repo_error", "Persistence error", some detail⟩

def ofFeed : Feed.Failure → Refusal
  | .cursor f => ⟨400, "invalid_cursor", "Invalid cursor", some f.message⟩
  | .store f => ofStore f

def ofVideo : Video.Failure → Refusal
  | .notFound => notFound "Video not found"
  | .forbidden => forbidden "Video belongs to another account"
  | .alreadyLiked => ⟨409, "duplicate", "Video already liked", none⟩
  | .notLiked => notFound "Like not found"
  | .submission f => invalidInput f.message
  | .store f => ofStore f

/-- The envelope that is sent. -/
def body (r : Refusal) : Json.Value :=
  .object [("error", .object <|
    [("code", .text r.code), ("message", .text r.message)] ++
      (r.hint.map fun h => [("hint", Json.Value.text h)]).getD [])]

def report (r : Refusal) : Report :=
  ⟨"infra::http", r.status, [r.code ++ ": " ++ r.hint.getD r.message]⟩

end Refusal

end ClipFeed.Http
