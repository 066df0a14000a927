/-!
Failures while the service starts.
-/

namespace ClipFeed.Startup

/-- A part of the surroundings that could not be set up. -/
inductive Obstacle where
  | io (detail : String)
  | database (detail : String)
  | migration (detail : String)
  | telemetry (detail : String)
  | configuration (detail : String)
  deriving DecidableEq, Repr

def Obstacle.message : Obstacle → String
  | .io detail => "io error: " ++ detail
  | .database detail => "database error: " ++ detail
  | .migration detail => "migration failed: " ++ detail
  | .telemetry detail => "telemetry initialization failed: " ++ detail
  | .configuration detail => "configuration error: " ++ detail

def Obstacle.chain (o : Obstacle) : List String :=
  o.message :: match o with
    | .io detail => [detail]
    | _ => []

inductive Failure where
  | obstacle (o : Obstacle)
  | unexpected (detail : String)
  deriving DecidableEq, Repr

def Failure.message : Failure → String
  | .obstacle o => o.message
  | .unexpected detail => "unexpected error: " ++ detail

def Failure.chain : Failure → List String
  | .obstacle o => o.chain
  | .unexpected detail => ["unexpected error: " ++ detail]

end ClipFeed.Startup
