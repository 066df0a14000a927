import ClipFeed.Json.Value
import ClipFeed.Text.Integer
/-!
Configured values before they have a meaning: a tree in which every leaf knows where it comes from.
Sources are laid over each other; tables are merged entry by entry, and everything else is replaced.
A name at the top may be a path into the tree.
-/

namespace ClipFeed.Settings

inductive Scalar where
  | nothing
  | flag (b : Bool)
  | integer (n : Int)
  | floating (f : Float)
  | text (s : String)

/-- A value, with the name of the source that gave it. -/
inductive Node where
  | leaf (origin : Option String) (value : Scalar)
  | list (origin : Option String) (items : List Node)
  | table (origin : Option String) (entries : List (String × Node))

abbrev Entries := List (String × Node)

namespace Node

def nothing : Node := .leaf none .nothing

/-- The entries of a table; other values have none. -/
def entries : Node → Entries
  | .table _ es => es
  | _ => []

def items : Node → List Node
  | .list _ ns => ns
  | _ => []

/-- Where a table comes from. One that was made on the way comes from nowhere. -/
def tableOrigin : Node → Option String
  | .table origin _ => origin
  | _ => none

def listOrigin : Node → Option String
  | .list origin _ => origin
  | _ => none

def put (name : String) (n : Node) : Entries → Entries
  | [] => [(name, n)]
  | (k, m) :: more => if k = name then (k, n) :: more else (k, m) :: put name n more

def entry (es : Entries) (name : String) : Node :=
  (es.lookup name).getD nothing

mutual

/-- A value laid over another. -/
def covering (below : Node) : Node → Node
  | .table _ es => .table below.tableOrigin (coveringAll below.entries es)
  | .leaf origin value => .leaf origin value
  | .list origin ns => .list origin ns

def coveringAll (below : Entries) : Entries → Entries
  | [] => below
  | (name, n) :: more => coveringAll (put name (covering (entry below name) n) below) more

end

inductive Step where
  | entry (name : String)
  /-- The position in a list, counted from its end when negative. -/
  | item (index : Int)
  deriving DecidableEq, Repr

def isNameChar (c : Char) : Bool :=
  c.isAlphanum || c == '_' || c == '-'

def splitName? (cs : List Char) : Option (String × List Char) :=
  let name := cs.takeWhile isNameChar
  if name.isEmpty then none else some (String.ofList name, cs.dropWhile isNameChar)

/-- A position up to its closing bracket, with blanks around it. -/
def splitIndex? (cs : List Char) : Option (Int × List Char) :=
  let cs := cs.dropWhile (· == ' ')
  let (negative, cs) := match cs with
    | '-' :: rest => (true, rest)
    | rest => (false, rest)
  match Text.natural? (cs.takeWhile Char.isDigit),
      (cs.dropWhile Char.isDigit).dropWhile (· == ' ') with
  | some n, ']' :: rest => some (if negative then -(n : Int) else n, rest)
  | _, _ => none

/-- The steps behind the first; each takes at least one character. -/
def stepsFrom? : (fuel : Nat) → List Char → Option (List Step)
  | _, [] => some []
  | fuel + 1, '.' :: cs => do
    let (name, rest) ← splitName? cs
    return .entry name :: (← stepsFrom? fuel rest)
  | fuel + 1, '[' :: cs => do
    let (index, rest) ← splitIndex? cs
    return .item index :: (← stepsFrom? fuel rest)
  | _, _ => none

/-- The steps that a name at the top denotes. One that is no path is a plain name. -/
def steps (name : String) : List Step :=
  match splitName? name.toList with
  | some (head, rest) =>
    match stepsFrom? rest.length rest with
    | some more => .entry head :: more
    | none => [.entry name]
  | none => [.entry name]

/-- A list in which the position exists, and the position from its front. -/
def reach (index : Int) (ns : List Node) : List Node × Nat :=
  if 0 ≤ index then
    (ns ++ List.replicate (index.toNat + 1 - ns.length) nothing, index.toNat)
  else if index.natAbs ≤ ns.length then (ns, ns.length - index.natAbs)
  else (List.replicate (index.natAbs - ns.length) nothing ++ ns, 0)

/-- A tree changed at the end of a path. What the path needs and does not find is made. -/
def alter : List Step → (Node → Node) → Node → Node
  | [], change, n => change n
  | .entry name :: more, change, n =>
    .table n.tableOrigin (put name (alter more change (entry n.entries name)) n.entries)
  | .item index :: more, change, n =>
    let (ns, i) := reach index n.items
    .list n.listOrigin (ns.set i (alter more change (ns.getD i nothing)))

def layered (below : Node) (source : Entries) : Node :=
  source.foldl (fun n (name, value) => alter (steps name) (covering · value) n) below

/-- A number that does not fit in 64 bits with a sign is kept as a floating one. -/
def ofInteger (n : Int) : Scalar :=
  if Text.Fits64 n then .integer n
  else .floating (if n < 0 then -n.natAbs.toUInt64.toFloat else n.natAbs.toUInt64.toFloat)

mutual

def ofJson (origin : Option String) : Json.Value → Node
  | .null => .leaf origin .nothing
  | .flag b => .leaf origin (.flag b)
  | .integer n => .leaf origin (ofInteger n)
  | .floating f => .leaf origin (.floating f)
  | .text s => .leaf origin (.text s)
  | .list vs => .list origin (ofList origin vs)
  | .object ms => .table origin (ofMembers origin ms)

def ofList (origin : Option String) : List Json.Value → List Node
  | [] => []
  | v :: vs => ofJson origin v :: ofList origin vs

def ofMembers (origin : Option String) : List (String × Json.Value) → Entries
  | [] => []
  | (name, v) :: more => (name, ofJson origin v) :: ofMembers origin more

end

end Node

end ClipFeed.Settings
