/-!
What can go wrong in the store of videos, by class.
-/

namespace ClipFeed.Store

inductive Fault where
  | persistence (detail : String)
  | duplicate (constraint : String)
  | notFound
  | invalidInput (detail : String)
  | integrity (detail : String)
  | timeout
  deriving DecidableEq, Repr

def Fault.message : Fault → String
  | .persistence detail => "persistence error: " ++ detail
  | .duplicate constraint =>
    "duplicate record violates unique constraint `" ++ constraint ++ "`"
  | .notFound => "resource not found"
  | .invalidInput detail => "invalid input: " ++ detail
  | .integrity detail => "integrity error: " ++ detail
  | .timeout => "database timeout"

end ClipFeed.Store
