import ClipFeed.Settings.Node
import ClipFeed.Text.Lower
import ClipFeed.Text.Quoted
/-!
Reading configured values as values of a type. Readers are generous: text is read as the number or
flag that it names, flags count as numbers, numbers as text, and fractions are rounded.
-/

namespace ClipFeed.Settings

/-- A value that cannot be read: what it is, what was expected, and where. -/
structure Mismatch where
  found : String
  expected : String
  key : Option String
  origin : Option String
  deriving DecidableEq, Repr

namespace Mismatch

def message (m : Mismatch) : String :=
  "invalid type: " ++ m.found ++ ", expected " ++ m.expected ++
    (match m.key with
      | some key => " for key `" ++ key ++ "`"
      | none => "") ++
    (match m.origin with
      | some origin => " in " ++ origin
      | none => "")

def inEntry (name : String) (m : Mismatch) : Mismatch :=
  { m with key := some <| match m.key with
      | none => name
      | some key => if key.startsWith "[" then name ++ key else name ++ "." ++ key }

def inItem (index : Nat) (m : Mismatch) : Mismatch :=
  let place := "[" ++ toString index ++ "]"
  { m with key := some <| match m.key with
      | none => place
      | some key => place ++ key }

end Mismatch

abbrev Read (α : Type) := Node → Except Mismatch α

namespace Node

def origin : Node → Option String
  | .leaf origin _ | .list origin _ | .table origin _ => origin

def describe : Node → String
  | .leaf _ .nothing => "unit value"
  | .leaf _ (.flag b) => "boolean `" ++ toString b ++ "`"
  | .leaf _ (.integer n) => "64-bit integer `" ++ toString n ++ "`"
  | .leaf _ (.floating f) => "floating point `" ++ Number.renderPlain f ++ "`"
  | .leaf _ (.text s) => "string " ++ Text.Quoted.encode s
  | .list .. => "sequence"
  | .table .. => "map"

def mismatch (n : Node) (expected : String) : Mismatch :=
  ⟨n.describe, expected, none, n.origin⟩

def readText : Read String
  | .leaf _ (.text s) => .ok s
  | .leaf _ (.flag b) => .ok (toString b)
  | .leaf _ (.integer n) => .ok (toString n)
  | .leaf _ (.floating f) => .ok (Number.renderPlain f)
  | n => .error (n.mismatch "a string")

def affirmations : List String := ["true", "on", "yes"]
def denials : List String := ["false", "off", "no"]

def readFlag : Read Bool
  | .leaf _ (.flag b) => .ok b
  | .leaf _ (.integer n) => .ok (n != 0)
  | .leaf _ (.floating f) => .ok (f != 0.0)
  | .leaf origin (.text s) =>
    let s := Text.lower s
    if s = "1" || affirmations.contains s then .ok true
    else if s = "0" || denials.contains s then .ok false
    else .error ((Node.leaf origin (.text s)).mismatch "a boolean")
  | n => .error (n.mismatch "a boolean")

def readNatural : Read Nat
  | .leaf origin (.integer n) =>
    if 0 ≤ n then .ok n.toNat
    else .error ((Node.leaf origin (.integer n)).mismatch "an unsigned 64 bit or less integer")
  | .leaf origin (.text s) =>
    let word := Text.lower s
    if affirmations.contains word then .ok 1
    else if denials.contains word then .ok 0
    else match Text.unsigned? s.toList with
      | some n =>
        if n < UInt64.size then .ok n
        else .error ((Node.leaf origin (.text s)).mismatch "an integer")
      | none => .error ((Node.leaf origin (.text s)).mismatch "an integer")
  | .leaf _ (.flag b) => .ok b.toNat
  | .leaf _ (.floating f) => .ok f.round.toUInt64.toNat
  | n => .error (n.mismatch "an integer")

/-- A number of at most so many bits. A number that is too large has no origin any more. -/
def readWord (bits : Nat) : Read Nat := fun node => do
  let n ← node.readNatural
  if n < Nat.pow 2 bits then return n
  else throw ⟨"64-bit unsigned integer `" ++ toString n ++ "`",
    "an unsigned " ++ toString bits ++ " bit integer", none, none⟩

/-- What a value is that stands where a record is expected. -/
def describeInstead : Node → String
  | .leaf _ (.integer n) => "integer `" ++ toString n ++ "`"
  | .leaf _ (.floating f) =>
    let plain := Number.renderPlain f
    "floating point `" ++ (if plain.contains '.' then plain else plain ++ ".0") ++ "`"
  | n => n.describe

/-- A record: named entries, or the same values in a fixed order. -/
inductive Record where
  | named (entries : Entries)
  | ordered (items : List Node)

def readRecord (name : String) : Read Record
  | .table _ es => .ok (.named es)
  | .list _ ns => .ok (.ordered ns)
  | n => .error ⟨n.describeInstead, "struct " ++ name, none, none⟩

def Record.get {α : Type} (r : Record) (index : Nat) (name : String) (default : α)
    (read : Read α) : Except Mismatch α :=
  match r with
  | .named es =>
    match es.lookup name with
    | some n => (read n).mapError (·.inEntry name)
    | none => .ok default
  | .ordered ns =>
    match ns[index]? with
    | some n => (read n).mapError (·.inItem index)
    | none => .ok default

def Record.optional {α : Type} (r : Record) (index : Nat) (name : String) (read : Read α) :
    Except Mismatch (Option α) :=
  r.get index name none fun
    | .leaf _ .nothing => .ok none
    | n => (read n).map some

end Node

end ClipFeed.Settings
