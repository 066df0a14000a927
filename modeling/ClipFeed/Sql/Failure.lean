import ClipFeed.Store.Fault
/-!
Failures of the database connection and of single statements, and the class that each has for the
store. Statements that the server refuses are told apart by their SQLSTATE code.
-/

namespace ClipFeed.Sql

/-- The server's word on a refused statement. -/
structure ServerError where
  code : Option String
  message : String
  constraint : Option String
  deriving DecidableEq, Repr

inductive Failure where
  | rowNotFound
  | poolTimedOut
  | poolClosed
  | workerCrashed
  | protocol (detail : String)
  | columnNotFound (name : String)
  | columnDecode (column : String) (detail : String)
  | configuration (detail : String)
  | io (detail : String)
  | server (error : ServerError)
  deriving DecidableEq, Repr

namespace Failure

def message : Failure → String
  | .rowNotFound => "no rows returned by a query that expected to return at least one row"
  | .poolTimedOut => "pool timed out while waiting for an open connection"
  | .poolClosed => "attempted to acquire a connection on a closed pool"
  | .workerCrashed => "attempted to communicate with a crashed background worker"
  | .protocol detail => "encountered unexpected or invalid data: " ++ detail
  | .columnNotFound name => "no column found for name: " ++ name
  | .columnDecode column detail =>
    "error occurred while decoding column " ++ column ++ ": " ++ detail
  | .configuration detail => "error with configuration: " ++ detail
  | .io detail => "error communicating with database: " ++ detail
  | .server e => "error returned from database: " ++ e.message

def chain (f : Failure) : List String :=
  f.message :: match f with
    | .columnDecode _ detail | .configuration detail | .io detail => [detail]
    | .server e => [e.message]
    | _ => []

def uniqueViolation : String := "23505"
def foreignKeyViolation : String := "23503"
def invalidTextRepresentation : String := "22P02"
def queryCanceled : String := "57014"

/-- Codes of this class report violated constraints. -/
def isIntegrityClass (code : String) : Bool :=
  code.toList.take 2 == ['2', '3']

/-- The class of a failure for the store. -/
def toStore : Failure → Store.Fault
  | .rowNotFound => .notFound
  | .poolTimedOut => .timeout
  | .server e =>
    match e.code with
    | some code =>
      if code = uniqueViolation then .duplicate (e.constraint.getD "unknown")
      else if code = foreignKeyViolation ∨ code = invalidTextRepresentation then
        .invalidInput e.message
      else if code = queryCanceled then .timeout
      else if isIntegrityClass code then .integrity e.message
      else .persistence e.message
    | none => .persistence e.message
  | f => .persistence f.message

end Failure

end ClipFeed.Sql
