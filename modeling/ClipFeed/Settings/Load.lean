import ClipFeed.Settings.Basic
/-!
Loading settings: a file, the environment and the command line, each over the one before.
-/

namespace ClipFeed.Settings

inductive Source where
  | missing (path : String)
  | json (path : String) (value : Json.Value)
  /-- A file that is no JSON, for a reason. -/
  | malformed (path : String) (reason : String)

/-- Why there are no settings to check. -/
inductive BuildFault where
  | missing (path : String)
  | malformed (path : String) (reason : String)
  /-- A file whose outermost value is no table. -/
  | noTable (path : String) (mismatch : Mismatch)
  | mismatch (m : Mismatch)
  deriving DecidableEq, Repr

def BuildFault.message : BuildFault → String
  | .missing path => "configuration file \"" ++ path ++ "\" not found"
  | .malformed path reason => reason ++ " in " ++ path
  | .noTable path m => m.message ++ " in " ++ path
  | .mismatch m => m.message

inductive LoadFault where
  | build (fault : BuildFault)
  | invalid (violation : Violation)
  deriving DecidableEq, Repr

def LoadFault.message : LoadFault → String
  | .build fault => "failed to build configuration: " ++ fault.message
  | .invalid violation => violation.message

def Source.entries : Source → Except BuildFault Entries
  | .missing path => .error (.missing path)
  | .malformed path reason => .error (.malformed path reason)
  | .json path value =>
    match Node.ofJson (some path) value with
    | .table _ es => .ok es
    | n => .error (.noTable path (n.mismatch "a map"))

/-- What every variable begins with, in whatever case. -/
def variablePrefix : List Char := "vidfeed__".toList

/-- Text in which two underscores are a point. -/
def pointed : List Char → List Char
  | '_' :: '_' :: cs => '.' :: pointed cs
  | c :: cs => c :: pointed cs
  | [] => []

def variableEntry? (given : String × String) : Option (String × Node) :=
  let name := (Text.lower given.1).toList
  if name.take variablePrefix.length = variablePrefix then
    some (String.ofList (pointed (name.drop variablePrefix.length)),
      .leaf (some "the environment") (.text given.2))
  else none

def variableNames : List String :=
  ["SERVER__HOST", "SERVER__PORT", "SERVER__GRACEFUL_SHUTDOWN_SECONDS", "LOGGING__LEVEL",
    "LOGGING__JSON", "DATABASE__URL", "DATABASE__MAX_CONNECTIONS", "CACHE__ENABLED",
    "CACHE__REDIS_URL", "CACHE__OP_TIMEOUT_MS", "CACHE__POLL_ATTEMPTS", "CACHE__POLL_INTERVAL_MS",
    "CACHE__LIST_TTL_SECS", "CACHE__LIST_LOCK_TTL_MS", "CACHE__DETAIL_TTL_SECS",
    "CACHE__DETAIL_LOCK_TTL_MS", "FEED__DEFAULT_LIMIT", "FEED__MAX_LIMIT"].map ("VIDFEED__" ++ ·)

/-- The settings of a file and an environment, before the command line. -/
def draft (file : Option Source) (environment : List (String × String)) :
    Except BuildFault Draft := do
  let entries ← match file with
    | some source => source.entries
    | none => .ok []
  let tree := (Node.table none []).layered entries
  (Draft.read (tree.layered (environment.filterMap variableEntry?))).mapError .mismatch

def load (file : Option Source) (environment : List (String × String)) (o : Overrides) :
    Except LoadFault Settings :=
  match draft file environment with
  | .error fault => .error (.build fault)
  | .ok d => (ofDraft (d.override o)).mapError .invalid

end ClipFeed.Settings
