/-!
Refusals of a Redis server: an error line is a code and, behind a space, the detail.
-/

namespace ClipFeed.Redis

structure Refusal where
  code : String
  detail : Option String
  deriving DecidableEq, Repr

namespace Refusal

def ofLine (line : String) : Refusal :=
  match line.toList.span (· != ' ') with
  | (code, []) => ⟨String.ofList code, none⟩
  | (code, _ :: detail) => ⟨String.ofList code, some (String.ofList detail)⟩

def classes : List (String × String) :=
  [("ERR", "ResponseError"), ("EXECABORT", "ExecAbortError"), ("LOADING", "BusyLoadingError"),
    ("NOSCRIPT", "NoScriptError"), ("MOVED", "Moved"), ("ASK", "Ask"), ("TRYAGAIN", "TryAgain"),
    ("CLUSTERDOWN", "ClusterDown"), ("CROSSSLOT", "CrossSlot"), ("MASTERDOWN", "MasterDown"),
    ("READONLY", "ReadOnly"), ("NOTBUSY", "NotBusy")]

def message (r : Refusal) : String :=
  match classes.lookup r.code, r.detail with
  | some name, some detail =>
    "An error was signalled by the server - " ++ name ++ ": " ++ detail
  | some name, none => "An error was signalled by the server- " ++ name
  | none, some detail => r.code ++ ": " ++ detail
  | none, none => r.code ++ ": Unknown extension error encountered"

/-- The refusal to run a script that the server does not hold. -/
def missingScript : Refusal :=
  ⟨"NOSCRIPT", some "No matching script. Please use EVAL."⟩

def isMissingScript (r : Refusal) : Bool :=
  r.code == missingScript.code

end Refusal

end ClipFeed.Redis
