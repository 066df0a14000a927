import ClipFeed.Json.Value
import ClipFeed.Text.Integer
/-!
Loose access to values. What is missing reads as null, and what is of another kind than the one
asked for reads as the empty value of that kind. An integer may also be given as text.
-/

namespace ClipFeed.Json.Value

def get (v : Value) (name : String) : Value :=
  match v with
  | .object ms => (ms.lookup name).getD .null
  | _ => .null

def holds (v : Value) (name : String) : Bool :=
  match v with
  | .object ms => (ms.lookup name).isSome
  | _ => false

def isNull : Value → Bool
  | .null => true
  | _ => false

def asInt : Value → Int
  | .integer n => n
  | .text s => (Text.integer? s.toList).getD 0
  | _ => 0

def asText : Value → String
  | .text s => s
  | _ => ""

def asFlag : Value → Bool
  | .flag b => b
  | _ => false

def asList : Value → List Value
  | .list vs => vs
  | _ => []

def asMembers : Value → List (String × Value)
  | .object ms => ms
  | _ => []

def present {α : Type} (v : Value) (read : Value → α) : Option α :=
  if v.isNull then none else some (read v)

end ClipFeed.Json.Value
