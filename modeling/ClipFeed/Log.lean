/-!
Log events: a level, a target, a message and named fields.
-/

namespace ClipFeed.Log

inductive Level where
  | error
  | warn
  | info
  | debug
  | trace
  deriving DecidableEq, Repr

inductive Datum where
  /-- Text that stands for itself. -/
  | text (s : String)
  /-- Text that is quoted where others are not. -/
  | quoted (s : String)
  | number (n : Int)
  deriving DecidableEq, Repr

structure Event where
  level : Level
  target : String
  message : String
  fields : List (String × Datum)
  deriving DecidableEq, Repr

def Level.name : Level → String
  | .error => "ERROR"
  | .warn => "WARN"
  | .info => "INFO"
  | .debug => "DEBUG"
  | .trace => "TRACE"

end ClipFeed.Log
