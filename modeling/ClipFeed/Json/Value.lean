import ClipFeed.Json.Scan
/-!
JSON values, their compact text and its reader. Members of an object are kept in the order of
their names, and the last of several with one name counts.
-/

namespace ClipFeed.Json

open Text

inductive Value where
  | null
  | flag (b : Bool)
  | integer (n : Int)
  | floating (f : Float)
  | text (s : String)
  | list (items : List Value)
  | object (members : List (String × Value))
  deriving Inhabited

def Value.int64 (n : Int64) : Value :=
  .integer n.toInt

def Value.orNull {α : Type} (f : α → Value) : Option α → Value
  | none => .null
  | some a => f a

/-- A byte of a text inside quotes. Only quotes, backslashes and controls are escaped. -/
def escapeByte (b : UInt8) : Bytes :=
  if b = 34 then [92, 34]
  else if b = 92 then [92, 92]
  else if 32 ≤ b then [b]
  else if b = 8 then [92, 98]
  else if b = 9 then [92, 116]
  else if b = 10 then [92, 110]
  else if b = 12 then [92, 102]
  else if b = 13 then [92, 114]
  else [92, 117, 48, 48, hexDigit (b.toNat / 16), hexDigit (b.toNat % 16)]

def printText (s : String) : Bytes :=
  34 :: (bytes s).flatMap escapeByte ++ [34]

def printInteger (n : Int) : Bytes :=
  bytes (toString n)

def joined : List Bytes → Bytes
  | [] => []
  | [piece] => piece
  | piece :: more => piece ++ 44 :: joined more

mutual

def Value.print : Value → Bytes
  | .null => [110, 117, 108, 108]
  | .flag true => [116, 114, 117, 101]
  | .flag false => [102, 97, 108, 115, 101]
  | .integer n => printInteger n
  | .floating f => bytes (Number.render f)
  | .text s => printText s
  | .list items => 91 :: joined (printAll items) ++ [93]
  | .object members => 123 :: joined (printMembers members) ++ [125]

def printAll : List Value → List Bytes
  | [] => []
  | v :: vs => v.print :: printAll vs

def printMembers : List (String × Value) → List Bytes
  | [] => []
  | (name, v) :: more => (printText name ++ 58 :: v.print) :: printMembers more

end

def Value.render (v : Value) : String :=
  (ofBytes? v.print).getD ""

def insertMember (name : String) (v : Value) : List (String × Value) → List (String × Value)
  | [] => [(name, v)]
  | (n, w) :: more =>
    if name = n then (name, v) :: more
    else if name < n then (name, v) :: (n, w) :: more
    else (n, w) :: insertMember name v more

def elements {α : Type} (read : Reader α) : (fuel : Nat) → (index : Nat) → Reader (List α)
  | 0, _, bs => .error (stopOn .endInList bs)
  | fuel + 1, index, bs => do
    match ← within (.element index) (nextElement (index = 0) bs) with
    | none => return ([], (skipSpace bs).drop 1)
    | some bs =>
      let (head, rest) ← within (.element index) (read bs)
      let (tail, rest) ← elements read fuel (index + 1) rest
      return (head :: tail, rest)

def members (read : Reader Value) : (fuel : Nat) → (first : Bool) → List (String × Value) →
    Reader (List (String × Value))
  | 0, _, _, bs => .error (stopOn .endInObject bs)
  | fuel + 1, first, found, bs => do
    match ← nextName first bs with
    | none => return (found, (skipSpace bs).drop 1)
    | some bs =>
      let (name, rest) ← string bs
      let (v, rest) ← within (.member name) (colon rest >>= read)
      members read fuel false (insertMember name v found) rest

/-- Any value nested less than `depth` deep. -/
def value : (depth : Nat) → Reader Value
  | 0, bs => .error (stopOn .tooDeep bs)
  | depth + 1, bs =>
    match skipSpace bs with
    | [] => .error (stopOn .endInValue [])
    | b :: rest =>
      if b = 110 then do return (.null, ← word [117, 108, 108] rest)
      else if b = 116 then do return (.flag true, ← word [114, 117, 101] rest)
      else if b = 102 then do return (.flag false, ← word [97, 108, 115, 101] rest)
      else if b = 34 then do
        let (s, rest) ← string rest
        return (.text s, rest)
      else if b = 45 || isDigit b then do
        let (n, rest) ← if b = 45 then numeral true rest else numeral false (b :: rest)
        match n with
        | .integer n => return (.integer n, rest)
        | .floating f => return (.floating f, rest)
      else if b = 91 then
        if depth = 0 then .error (stopOn .tooDeep (b :: rest))
        else do
          let (items, rest) ← elements (value depth) (rest.length + 1) 0 rest
          return (.list items, rest)
      else if b = 123 then
        if depth = 0 then .error (stopOn .tooDeep (b :: rest))
        else do
          let (found, rest) ← members (value depth) (rest.length + 1) true [] rest
          return (.object found, rest)
      else .error (stopOn .expectedValue (b :: rest))

def Value.parse (input : Bytes) : Except Stop Value :=
  whole (value 128) input

end ClipFeed.Json
