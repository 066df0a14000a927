import ClipFeed.Dialogue
import ClipFeed.Moment.Basic
import ClipFeed.Sql.Failure
/-!
Statements for the database, what it answers, and dialogues with it. A statement with parameters
names them `$1`, `$2` and so on, in the order in which they are bound.
-/

namespace ClipFeed.Sql

inductive Parameter where
  | integer (n : Int64)
  | integers (ns : List Int64)
  | text (s : String)
  | null
  /-- A moment in microseconds since the epoch. -/
  | timestamp (micros : Int)
  deriving DecidableEq, Repr

def Parameter.optional : Option String → Parameter
  | some s => .text s
  | none => .null

/-- Where the database begins to count: 2000-01-01T00:00:00Z. -/
def epochMicros : Int := 946684800000000

/-- The microsecond of a moment, rounded towards the database's epoch. -/
def Parameter.moment (m : Moment) : Parameter :=
  .timestamp (epochMicros + (m.unixNanos - epochMicros * 1000).tdiv 1000)

structure Query where
  text : String
  parameters : List Parameter
  deriving DecidableEq, Repr

namespace Query

def literal (q : Query) (text : String) : Query :=
  { q with text := q.text ++ text }

def bind (q : Query) (p : Parameter) : Query :=
  ⟨q.text ++ "$" ++ toString (q.parameters.length + 1), q.parameters ++ [p]⟩

end Query

inductive Statement where
  | begin
  | commit
  | rollback
  /-- Text that may hold several statements and takes no parameters. -/
  | script (text : String)
  | query (q : Query)
  deriving DecidableEq, Repr

namespace Statement

def text : Statement → String
  | .begin => "BEGIN"
  | .commit => "COMMIT"
  | .rollback => "ROLLBACK"
  | .script text => text
  | .query q => q.text

def parameters? : Statement → Option (List Parameter)
  | .query q => some q.parameters
  | _ => none

end Statement

inductive Cell where
  | null
  | integer (n : Int64)
  | text (s : String)
  /-- A moment in microseconds since the epoch. -/
  | timestamp (micros : Int)
  deriving DecidableEq, Repr

/-- What a statement has found and how many rows it has changed. -/
structure Outcome where
  rows : List (List Cell)
  affected : Nat
  deriving DecidableEq, Repr

def Outcome.empty : Outcome := ⟨[], 0⟩

@[reducible] def Reply (_ : Statement) : Type := Except ServerError Outcome

abbrev Session := Dialogue Statement Reply

namespace Session

def send (s : Statement) : Session (Except Failure Outcome) :=
  return (← Dialogue.request s).mapError .server

def run (q : Query) : Session (Except Failure Outcome) :=
  send (.query q)

end Session

end ClipFeed.Sql
