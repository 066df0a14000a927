import ClipFeed.Json.Value
import ClipFeed.Log.Filter
import ClipFeed.Text.Quoted
/-!
Events as lines: compact text, or JSON. What the filter does not admit is not written.
-/

namespace ClipFeed.Log

def Datum.compact : Datum → String
  | .text s => s
  | .quoted s => Text.Quoted.encode s
  | .number n => toString n

def Datum.toJson : Datum → Json.Value
  | .text s | .quoted s => .text s
  | .number n => .integer n

namespace Event

/-- Level, target and message, then the fields in their order. -/
def compact (e : Event) : String :=
  e.level.name ++ " " ++ e.target ++ ": " ++ e.message ++
    String.join (e.fields.map fun (name, d) => " " ++ name ++ "=" ++ d.compact)

/-- The message is one field among the others. -/
def toJson (e : Event) : Json.Value :=
  .object [("level", .text e.level.name),
    ("fields", .object (("message", .text e.message) :: e.fields.map fun (name, d) =>
      (name, d.toJson))),
    ("target", .text e.target)]

end Event

structure Writer where
  json : Bool
  filter : Filter
  deriving DecidableEq, Repr

/-- The line of an event, if it is written. -/
def Writer.line? (w : Writer) (e : Event) : Option String :=
  if w.filter.admits e.target e.level then
    some (if w.json then e.toJson.render else e.compact)
  else none

end ClipFeed.Log
