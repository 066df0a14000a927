import ClipFeed.Text.Bytes
/-!
URL-safe base64 without padding. Three bytes are four symbols of six bits each; one or two bytes
left over are two or three symbols whose unused low bits must be zero. Reading names the first
symbol that breaks these rules.
-/

namespace ClipFeed.Text.Base64Url

/-- Why a text is not a written form, with the offset of the byte at fault. -/
inductive Fault where
  | symbol (byte : UInt8) (offset : Nat)
  | length (symbols : Nat)
  | lastSymbol (byte : UInt8) (offset : Nat)
  | padding
  deriving DecidableEq, Repr

def Fault.message : Fault → String
  | .symbol byte offset =>
    "Invalid symbol " ++ toString byte ++ ", offset " ++ toString offset ++ "."
  | .length symbols => "Invalid input length: " ++ toString symbols
  | .lastSymbol byte offset =>
    "Invalid last symbol " ++ toString byte ++ ", offset " ++ toString offset ++ "."
  | .padding => "Invalid padding"

def symbol (n : Nat) : UInt8 :=
  if n < 26 then UInt8.ofNat (65 + n)
  else if n < 52 then UInt8.ofNat (71 + n)
  else if n < 62 then UInt8.ofNat (n - 4)
  else if n = 62 then 45
  else 95

def value? (b : UInt8) : Option Nat :=
  let n := b.toNat
  if 65 ≤ n && n ≤ 90 then some (n - 65)
  else if 97 ≤ n && n ≤ 122 then some (n - 71)
  else if 48 ≤ n && n ≤ 57 then some (n + 4)
  else if n = 45 then some 62
  else if n = 95 then some 63
  else none

theorem value?_symbol {n : Nat} (small : n < 64) : value? (symbol n) = some n := by
  revert n; decide

def encodeBytes : Bytes → Bytes
  | [] => []
  | [a] => [symbol (a.toNat / 4), symbol (a.toNat % 4 * 16)]
  | [a, b] =>
    [symbol (a.toNat / 4), symbol (a.toNat % 4 * 16 + b.toNat / 16), symbol (b.toNat % 16 * 4)]
  | a :: b :: c :: rest =>
    symbol (a.toNat / 4) :: symbol (a.toNat % 4 * 16 + b.toNat / 16) ::
      symbol (b.toNat % 16 * 4 + c.toNat / 64) :: symbol (c.toNat % 64) :: encodeBytes rest

def triple (p q r s : Nat) : Bytes :=
  [UInt8.ofNat (p * 4 + q / 16), UInt8.ofNat (q % 16 * 16 + r / 4), UInt8.ofNat (r % 4 * 64 + s)]

/-- The pad character is no symbol, but it is told apart from other strangers. -/
def pad : UInt8 := 61

/-- The numbers of the last, possibly short group, with the number of pads behind them. `index`
counts the bytes of the group read so far and `firstPad` is where its pads began. -/
def lastGroup (start : Nat) : (index : Nat) → (firstPad : Option Nat) → Bytes →
    Except Fault (List Nat)
  | _, _, [] => .ok []
  | index, firstPad, b :: rest =>
    if b = pad then
      if index < 2 then .error (.symbol b (start + index))
      else lastGroup start (index + 1) (firstPad <|> some index) rest
    else match firstPad with
      | some first => .error (.symbol pad (start + first))
      | none => match value? b with
        | none => .error (.symbol b (start + index))
        | some n => (n :: ·) <$> lastGroup start (index + 1) none rest

def decodeLast (start : Nat) (group : Bytes) : Except Fault Bytes := do
  let numbers ← lastGroup start 0 none group
  let spare (at_ : Nat) : Fault := .lastSymbol (group.getD at_ 0) (start + at_)
  match numbers with
  | [p, q] =>
    if group.length > 2 then throw .padding
    if q % 16 = 0 then return [UInt8.ofNat (p * 4 + q / 16)] else throw (spare 1)
  | [p, q, r] =>
    if group.length > 3 then throw .padding
    if r % 4 = 0 then return (triple p q r 0).take 2 else throw (spare 2)
  | [p, q, r, s] => return triple p q r s
  | _ => if start + group.length = 0 then return [] else throw (.length (start + numbers.length))

def inGroup (b : UInt8) (offset : Nat) : Except Fault Nat :=
  match value? b with
  | some n => .ok n
  | none => .error (.symbol b offset)

/-- The bytes of all groups; all but the last have four symbols. -/
def decodeGroups (start : Nat) : Bytes → Except Fault Bytes
  | a :: b :: c :: d :: e :: rest => do
    let p ← inGroup a start
    let q ← inGroup b (start + 1)
    let r ← inGroup c (start + 2)
    let s ← inGroup d (start + 3)
    return triple p q r s ++ (← decodeGroups (start + 4) (e :: rest))
  | group => decodeLast start group

/-- The bytes that a list of symbols spells. A stray byte alone behind full groups is reported
before anything else. -/
def decodeBytes (input : Bytes) : Except Fault Bytes :=
  match input.getLast? with
  | some last =>
    if input.length % 4 = 1 && last != pad && (value? last).isNone then
      .error (.symbol last (input.length - 1))
    else decodeGroups 0 input
  | none => .ok []

def encode (bs : Bytes) : String :=
  String.ofList ((encodeBytes bs).map fun b => Char.ofNat b.toNat)

def decode (s : String) : Except Fault Bytes :=
  decodeBytes (bytes s)

end ClipFeed.Text.Base64Url
