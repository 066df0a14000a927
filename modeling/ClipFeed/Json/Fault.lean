import ClipFeed.Number.Shortest
import ClipFeed.Text.Bytes
import ClipFeed.Text.Quoted
/-!
What can go wrong while JSON text is read, and where. A stop records how many bytes were left
unread; the line and column of the message are counted from the whole input.
-/

namespace ClipFeed.Json

open Text

inductive Found where
  | null
  | flag (b : Bool)
  | integer (n : Int)
  | floating (f : Float)
  | text (s : String)
  | sequence
  | map

def Found.describe : Found → String
  | .null => "null"
  | .flag b => "boolean `" ++ (if b then "true" else "false") ++ "`"
  | .integer n => "integer `" ++ toString n ++ "`"
  | .floating f => "floating point `" ++ Number.render f ++ "`"
  | .text s => "string " ++ Quoted.encode s
  | .sequence => "sequence"
  | .map => "map"

inductive Fault where
  | endInValue
  | endInList
  | endInObject
  | endInString
  | expectedColon
  | expectedListCommaOrEnd
  | expectedObjectCommaOrEnd
  | expectedWord
  | expectedValue
  | invalidEscape
  | invalidNumber
  | numberOutOfRange
  | invalidUnicode
  | controlCharacter
  | keyMustBeString
  | loneSurrogate
  | trailingComma
  | trailingCharacters
  | unfinishedSurrogatePair
  | tooDeep
  | wrongKind (found : Found) (expected : String)
  | wrongValue (found : Found) (expected : String)
  | wrongLength (length : Nat) (expected : String)
  | missingField (name : String)
  | duplicateField (name : String)
  | refused (reason : String)

def Fault.describe : Fault → String
  | .endInValue => "EOF while parsing a value"
  | .endInList => "EOF while parsing a list"
  | .endInObject => "EOF while parsing an object"
  | .endInString => "EOF while parsing a string"
  | .expectedColon => "expected `:`"
  | .expectedListCommaOrEnd => "expected `,` or `]`"
  | .expectedObjectCommaOrEnd => "expected `,` or `\x7d`"
  | .expectedWord => "expected ident"
  | .expectedValue => "expected value"
  | .invalidEscape => "invalid escape"
  | .invalidNumber => "invalid number"
  | .numberOutOfRange => "number out of range"
  | .invalidUnicode => "invalid unicode code point"
  | .controlCharacter => "control character (\\u0000-\\u001F) found while parsing a string"
  | .keyMustBeString => "key must be a string"
  | .loneSurrogate => "lone leading surrogate in hex escape"
  | .trailingComma => "trailing comma"
  | .trailingCharacters => "trailing characters"
  | .unfinishedSurrogatePair => "unexpected end of hex escape"
  | .tooDeep => "recursion limit exceeded"
  | .wrongKind found expected => "invalid type: " ++ found.describe ++ ", expected " ++ expected
  | .wrongValue found expected => "invalid value: " ++ found.describe ++ ", expected " ++ expected
  | .wrongLength length expected =>
    "invalid length " ++ toString length ++ ", expected " ++ expected
  | .missingField name => "missing field `" ++ name ++ "`"
  | .duplicateField name => "duplicate field `" ++ name ++ "`"
  | .refused reason => reason

/-- Faults of the value, not of the JSON text that holds it. -/
def Fault.ofData : Fault → Bool
  | .wrongKind .. | .wrongValue .. | .wrongLength .. | .missingField _ | .duplicateField _
  | .refused _ => true
  | _ => false

/-- A step from a value into one of its parts. -/
inductive Place where
  | member (name : String)
  | element (index : Nat)
  deriving DecidableEq, Repr

/-- A fault, the number of bytes left unread where it is reported, and the way from the whole value
to the part that has it. -/
structure Stop where
  fault : Fault
  left : Nat
  path : List Place

def stopAt (fault : Fault) (rest : Bytes) : Stop :=
  ⟨fault, rest.length, []⟩

/-- A fault reported on the next byte, if there is one. -/
def stopOn (fault : Fault) (rest : Bytes) : Stop :=
  ⟨fault, rest.length - 1, []⟩

def lineColumn (consumed : Bytes) : Nat × Nat :=
  (consumed.count 10 + 1, (consumed.reverse.takeWhile (· != 10)).length)

def Stop.message (stop : Stop) (input : Bytes) : String :=
  let (line, column) := lineColumn (input.take (input.length - stop.left))
  stop.fault.describe ++ " at line " ++ toString line ++ " column " ++ toString column

/-- The stop as a whole sees it that has it in one of its parts. -/
def Stop.inside (place : Place) (stop : Stop) : Stop :=
  { stop with path := place :: stop.path }

def within {α : Type} (place : Place) (outcome : Except Stop α) : Except Stop α :=
  outcome.mapError (Stop.inside place)

def pathText : List Place → String
  | [] => ""
  | .element index :: more => "[" ++ toString index ++ "]" ++ continued more
  | .member name :: more => name ++ continued more
where
  continued : List Place → String
    | [] => ""
    | .element index :: more => "[" ++ toString index ++ "]" ++ continued more
    | .member name :: more => "." ++ name ++ continued more

def Stop.located (stop : Stop) (input : Bytes) : String :=
  if stop.path.isEmpty then stop.message input
  else pathText stop.path ++ ": " ++ stop.message input

/-- A reader takes a value off the front of the bytes. -/
abbrev Reader (α : Type) := Bytes → Except Stop (α × Bytes)

end ClipFeed.Json
