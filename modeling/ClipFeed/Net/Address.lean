/-!
Socket addresses as text: four bytes in decimal, or eight groups in hexadecimal between brackets,
and a port. Groups that are zero may be left out in one place, and the last two may be written as
four bytes. Writing leaves out the longest run of zeros.
-/

namespace ClipFeed.Net

inductive Host where
  | four (a b c d : Nat)
  /-- Eight groups of 16 bits, and the zone that they belong to. -/
  | six (groups : List Nat) (zone : Nat)
  deriving DecidableEq, Repr

structure Address where
  host : Host
  port : Nat
  deriving DecidableEq, Repr

/-- Takes a piece off the front of the text, if there is one. -/
abbrev Reader (α : Type) := List Char → Option (α × List Char)

def digitValue? (c : Char) : Option Nat :=
  if c.isDigit then some (c.toNat - '0'.toNat)
  else if 'a' ≤ c && c ≤ 'f' then some (c.toNat - 'a'.toNat + 10)
  else if 'A' ≤ c && c ≤ 'F' then some (c.toNat - 'A'.toNat + 10)
  else none

/-- All digits that follow, as a number up to a bound. -/
def number (radix bound : Nat) : Reader Nat := fun cs =>
  let isDigit (c : Char) : Bool := (digitValue? c).any (· < radix)
  let digits := cs.takeWhile isDigit
  let n := digits.foldl (fun n c => n * radix + (digitValue? c).getD 0) 0
  if digits.isEmpty || bound < n then none else some (n, cs.dropWhile isDigit)

/-- A byte in decimal without zeros in front. -/
def byte : Reader Nat
  | '0' :: c :: rest => if c.isDigit then none else some (0, c :: rest)
  | cs => number 10 255 cs

def symbol (c : Char) : Reader Unit
  | [] => none
  | d :: rest => if d = c then some ((), rest) else none

def fourBytes : Reader (Nat × Nat × Nat × Nat) := fun cs => do
  let (a, cs) ← byte cs
  let ((), cs) ← symbol '.' cs
  let (b, cs) ← byte cs
  let ((), cs) ← symbol '.' cs
  let (c, cs) ← byte cs
  let ((), cs) ← symbol '.' cs
  let (d, cs) ← byte cs
  return ((a, b, c, d), cs)

/-- One to four hexadecimal digits. -/
def group : Reader Nat := fun cs =>
  if 4 < (cs.takeWhile fun c => (digitValue? c).isSome).length then none else number 16 65535 cs

/-- Up to so many groups with colons between them, and whether the last two were bytes. -/
def groups : (left : Nat) → (first : Bool) → List Char → List Nat × Bool × List Char
  | 0, _, cs => ([], false, cs)
  | left + 1, first, cs =>
    match if first then some ((), cs) else symbol ':' cs with
    | none => ([], false, cs)
    | some ((), body) =>
      match if left = 0 then none else fourBytes body with
      | some ((a, b, c, d), rest) => ([a * 256 + b, c * 256 + d], true, rest)
      | none =>
        match group body with
        | none => ([], false, cs)
        | some (g, rest) =>
          let (gs, bytes, rest) := groups left false rest
          (g :: gs, bytes, rest)

/-- Eight groups. A double colon stands for at least one group of zero. -/
def eightGroups : Reader (List Nat) := fun cs =>
  let (head, bytes, rest) := groups 8 true cs
  if head.length = 8 then some (head, rest)
  else if bytes then none
  else match rest with
    | ':' :: ':' :: rest =>
      let (tail, _, rest) := groups (7 - head.length) true rest
      some (head ++ List.replicate (8 - head.length - tail.length) 0 ++ tail, rest)
    | _ => none

def zone : Reader Nat
  | '%' :: rest => number 10 (UInt32.size - 1) rest
  | cs => some (0, cs)

def portNumber : Reader Nat := fun cs => do
  let ((), cs) ← symbol ':' cs
  number 10 65535 cs

def Address.read : Reader Address
  | '[' :: cs => do
    let (gs, cs) ← eightGroups cs
    let (z, cs) ← zone cs
    let ((), cs) ← symbol ']' cs
    let (p, cs) ← portNumber cs
    return (⟨.six gs z, p⟩, cs)
  | cs => do
    let ((a, b, c, d), cs) ← fourBytes cs
    let (p, cs) ← portNumber cs
    return (⟨.four a b c d, p⟩, cs)

/-- The address that a whole text denotes. -/
def Address.parse? (s : String) : Option Address :=
  match Address.read s.toList with
  | some (a, []) => some a
  | _ => none

def dotted (a b c d : Nat) : String :=
  String.intercalate "." ([a, b, c, d].map toString)

def hex (n : Nat) : String :=
  String.ofList (Nat.toDigits 16 n)

def joined (gs : List Nat) : String :=
  String.intercalate ":" (gs.map hex)

def zerosAhead (gs : List Nat) : Nat :=
  (gs.takeWhile (· == 0)).length

/-- Where the longest run of zeros begins and how long it is; the first of several counts. -/
def longestZeros (gs : List Nat) : Nat × Nat :=
  (List.range gs.length).foldl (fun best i =>
    let n := zerosAhead (gs.drop i)
    if best.2 < n then (i, n) else best) (0, 0)

def renderGroups (gs : List Nat) : String :=
  match gs with
  | [0, 0, 0, 0, 0, 65535, g, h] =>
    "::ffff:" ++ dotted (g / 256) (g % 256) (h / 256) (h % 256)
  | gs =>
    let (start, count) := longestZeros gs
    if 1 < count then joined (gs.take start) ++ "::" ++ joined (gs.drop (start + count))
    else joined gs

def Address.render (a : Address) : String :=
  (match a.host with
    | .four a b c d => dotted a b c d
    | .six gs 0 => "[" ++ renderGroups gs ++ "]"
    | .six gs z => "[" ++ renderGroups gs ++ "%" ++ toString z ++ "]") ++ ":" ++ toString a.port

end ClipFeed.Net
