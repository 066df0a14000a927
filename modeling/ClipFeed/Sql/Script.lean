import ClipFeed.Sql.Statement
/-!
A database that answers from a script: statements that bound a transaction by their text, all others
in their order. What the script does not answer finds nothing and changes nothing.
-/

namespace ClipFeed.Sql

structure Script where
  replies : List (Except ServerError Outcome)
  /-- The replies to `BEGIN`, `COMMIT` and `ROLLBACK`. -/
  control : List (String × Except ServerError Outcome)

namespace Script

def boundReply (s : Script) (text : String) : Except ServerError Outcome :=
  (s.control.lookup text).getD (.ok .empty)

def nextReply (s : Script) : Except ServerError Outcome × Script :=
  match s.replies with
  | [] => (.ok .empty, s)
  | reply :: more => (reply, { s with replies := more })

def perform (s : Script) : (statement : Statement) → Reply statement × Script
  | .begin => (s.boundReply Statement.begin.text, s)
  | .commit => (s.boundReply Statement.commit.text, s)
  | .rollback => (s.boundReply Statement.rollback.text, s)
  | .script _ => s.nextReply
  | .query _ => s.nextReply

end Script

end ClipFeed.Sql
