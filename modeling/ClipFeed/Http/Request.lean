import ClipFeed.Text.Bytes
/-!
Requests. A header may be given several times; the first of them counts.
-/

namespace ClipFeed.Http

open Text

structure Request where
  method : String
  path : String
  query : Option String
  headers : List (String × Bytes)
  body : Bytes
  deriving DecidableEq, Repr

namespace Request

/-- The path and the query of a target. A fragment does not belong to it. -/
def splitTarget (target : String) : String × Option String :=
  let cs := target.toList.takeWhile (· != '#')
  (String.ofList (cs.takeWhile (· != '?')),
    match cs.dropWhile (· != '?') with
    | [] => none
    | _ :: query => some (String.ofList query))

/-- The first header of a name, in whatever case it is written. -/
def header? (r : Request) (name : String) : Option Bytes :=
  (r.headers.find? fun (n, _) => n.toLower == name).map (·.2)

end Request

def isPlain (b : UInt8) : Bool :=
  (32 ≤ b && b < 127) || b == 9

def plainText? (bs : Bytes) : Option String :=
  if bs.all isPlain then ofBytes? bs else none

end ClipFeed.Http
