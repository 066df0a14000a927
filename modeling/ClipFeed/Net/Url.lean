import ClipFeed.Net.Address
/-!
Addresses of servers: a scheme and, behind two slashes, a host with an optional port, then a path.
What stands before an at sign names a user and is not part of the host.
-/

namespace ClipFeed.Net

structure Url where
  scheme : String
  /-- The host, unless it is empty or missing. -/
  host : Option String
  port : Option Nat
  path : String
  deriving DecidableEq, Repr

namespace Url

inductive Fault where
  | relative
  | emptyHost
  | invalidPort
  | invalidHostCharacter
  | invalidGroups
  deriving DecidableEq, Repr

def Fault.message : Fault → String
  | .relative => "relative URL without a base"
  | .emptyHost => "empty host"
  | .invalidPort => "invalid port number"
  | .invalidHostCharacter => "invalid domain character"
  | .invalidGroups => "invalid IPv6 address"

def isSchemeChar (c : Char) : Bool :=
  c.isAlphanum || c == '+' || c == '-' || c == '.'

def splitScheme? (cs : List Char) : Option (String × List Char) :=
  let name := cs.takeWhile isSchemeChar
  match name, cs.dropWhile isSchemeChar with
  | c :: _, ':' :: rest => if c.isAlpha then some ((String.ofList name).toLower, rest) else none
  | _, _ => none

/-- Whether a character ends the part that names user, host and port. -/
def endsAuthority (c : Char) : Bool :=
  c == '/' || c == '?' || c == '#'

/-- Characters that no host holds. -/
def isForbidden (c : Char) : Bool :=
  c.toNat == 0 || [' ', '#', '/', '<', '>', '?', '@', '[', '\\', ']', '^', '|'].contains c

/-- What stands behind the last at sign, and whether there is one. -/
def afterUser (cs : List Char) : List Char × Bool :=
  ((cs.reverse.takeWhile (· != '@')).reverse, cs.contains '@')

/-- A host between brackets, or up to a colon. -/
def splitHost (cs : List Char) : Except Fault (String × List Char) :=
  match cs with
  | '[' :: _ =>
    let inner := (cs.drop 1).takeWhile (· != ']')
    match eightGroups inner, (cs.drop 1).dropWhile (· != ']') with
    | some (gs, []), ']' :: rest => .ok ("[" ++ renderGroups gs ++ "]", rest)
    | _, _ => .error .invalidGroups
  | cs =>
    let host := cs.takeWhile (· != ':')
    if host.any isForbidden then .error .invalidHostCharacter
    else .ok (String.ofList host, cs.dropWhile (· != ':'))

def readPort : List Char → Except Fault (Option Nat)
  | [] => .ok none
  | ':' :: [] => .ok none
  | ':' :: cs =>
    match number 10 65535 cs with
    | some (n, []) => .ok (some n)
    | _ => .error .invalidPort
  | _ => .error .invalidPort

/-- Schemes whose addresses always have a host. -/
def needsHost (scheme : String) : Bool :=
  ["http", "https", "ws", "wss", "ftp"].contains scheme

/-- Text without blanks and controls at its ends, and without line breaks and tabs. -/
def cleaned (s : String) : List Char :=
  let isEdge (c : Char) : Bool := c.toNat ≤ 32
  let inner := ((s.toList.dropWhile isEdge).reverse.dropWhile isEdge).reverse
  inner.filter fun c => !(c == '\n' || c == '\r' || c == '\t')

def pathOf (cs : List Char) : String :=
  String.ofList (cs.takeWhile fun c => !(c == '?' || c == '#'))

def ofAuthority (scheme : String) (cs : List Char) : Except Fault Url := do
  let authority := cs.takeWhile (!endsAuthority ·)
  let path := pathOf (cs.dropWhile (!endsAuthority ·))
  let (place, named) := afterUser authority
  let (host, rest) ← splitHost place
  let port ← if host.isEmpty && (named || !rest.isEmpty || needsHost scheme) then
      throw .emptyHost
    else readPort rest
  return ⟨scheme, if host.isEmpty then none else some host, port, path⟩

def parse (s : String) : Except Fault Url :=
  match splitScheme? (cleaned s) with
  | none => .error .relative
  | some (scheme, rest) =>
    if needsHost scheme then ofAuthority scheme (rest.dropWhile fun c => c == '/' || c == '\\')
    else match rest with
      | '/' :: '/' :: rest => ofAuthority scheme rest
      | rest => .ok ⟨scheme, none, none, pathOf rest⟩

end Url

end ClipFeed.Net
