import ClipFeed.Log
import ClipFeed.Text.Integer
/-!
Thresholds: how severe an event has to be to be written. A threshold is a level by name, in any
case, or a number from 0 for nothing to 5 for everything; no text at all means errors only.
-/

namespace ClipFeed.Log

inductive Threshold where
  | off
  | atLeast (level : Level)
  deriving DecidableEq, Repr

/-- From the most severe level up. -/
def Level.verbosity : Level → Nat
  | .error => 1
  | .warn => 2
  | .info => 3
  | .debug => 4
  | .trace => 5

namespace Threshold

def admits : Threshold → Level → Bool
  | .off, _ => false
  | .atLeast least, level => level.verbosity ≤ least.verbosity

def name : Threshold → String
  | .off => "off"
  | .atLeast level => level.name.toLower

def all : List Threshold :=
  [.off, .atLeast .error, .atLeast .warn, .atLeast .info, .atLeast .debug, .atLeast .trace]

def parse? (s : String) : Option Threshold :=
  match Text.unsigned? s.toList with
  | some n => all[n]?
  | none => if s.isEmpty then some (.atLeast .error) else all.find? (·.name == s.toLower)

end Threshold

end ClipFeed.Log
