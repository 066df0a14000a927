import ClipFeed.Json.Fault
import ClipFeed.Text.Hex
/-!
The smallest pieces of JSON text: blanks, words, strings and numbers. Each reader takes one piece
off the front of the bytes.
-/

namespace ClipFeed.Json

open Text

def isSpace (b : UInt8) : Bool :=
  b == 32 || b == 10 || b == 9 || b == 13

def skipSpace (bs : Bytes) : Bytes :=
  bs.dropWhile isSpace

def isDigit (b : UInt8) : Bool :=
  48 ≤ b && b ≤ 57

def digitValue (b : UInt8) : Nat :=
  b.toNat - 48

/-- The rest of a word whose first letter is known. -/
def word (letters : Bytes) (bs : Bytes) : Except Stop Bytes :=
  match letters, bs with
  | [], rest => .ok rest
  | _ :: _, [] => .error (stopAt .endInValue [])
  | l :: ls, b :: rest => if b = l then word ls rest else .error (stopAt .expectedWord rest)

def hex4 : Reader Nat
  | a :: b :: c :: d :: rest =>
    match hexValue? a, hexValue? b, hexValue? c, hexValue? d with
    | some p, some q, some r, some s => .ok (((p * 16 + q) * 16 + r) * 16 + s, rest)
    | _, _, _, _ => .error (stopAt .invalidEscape rest)
  | _ => .error (stopAt .endInString [])

def isLeading (n : Nat) : Bool := 0xD800 ≤ n && n ≤ 0xDBFF
def isTrailing (n : Nat) : Bool := 0xDC00 ≤ n && n ≤ 0xDFFF

def codePointBytes (n : Nat) : Bytes :=
  String.utf8EncodeChar (Char.ofNat n)

/-- One expected byte inside a string, after which the rest follows. -/
def inString (b : UInt8) (otherwise : Fault) : Bytes → Except Stop Bytes
  | [] => .error (stopAt .endInString [])
  | c :: rest => if c = b then .ok rest else .error (stopAt otherwise rest)

/-- The character behind a backslash and a u. A code point beyond 16 bits is written as two such
numbers, and neither of these may stand alone. -/
def unicodeEscape : Reader Bytes := fun bs => do
  let (n, rest) ← hex4 bs
  if isTrailing n then throw (stopAt .loneSurrogate rest)
  if isLeading n then
    let rest ← inString 92 .unfinishedSurrogatePair rest
    let rest ← inString 117 .unfinishedSurrogatePair rest
    let (m, rest) ← hex4 rest
    if isTrailing m then
      return (codePointBytes ((n - 0xD800) * 0x400 + (m - 0xDC00) + 0x10000), rest)
    else throw (stopAt .loneSurrogate rest)
  else return (codePointBytes n, rest)

def shortEscape? (b : UInt8) : Option UInt8 :=
  if b = 34 || b = 92 || b = 47 then some b
  else if b = 98 then some 8
  else if b = 102 then some 12
  else if b = 110 then some 10
  else if b = 114 then some 13
  else if b = 116 then some 9
  else none

/-- What follows a backslash. -/
def escape : Reader Bytes
  | [] => .error (stopAt .endInString [])
  | b :: rest =>
    if b = 117 then unicodeEscape rest
    else match shortEscape? b with
      | some c => .ok ([c], rest)
      | none => .error (stopAt .invalidEscape rest)

def stringBody : (fuel : Nat) → Reader Bytes
  | 0, bs => .error (stopAt .endInString bs)
  | _ + 1, [] => .error (stopAt .endInString [])
  | fuel + 1, b :: rest =>
    if b = 34 then .ok ([], rest)
    else if b = 92 then do
      let (head, rest) ← escape rest
      let (tail, rest) ← stringBody fuel rest
      return (head ++ tail, rest)
    else if b < 32 then .error (stopAt .controlCharacter rest)
    else do
      let (tail, rest) ← stringBody fuel rest
      return (b :: tail, rest)

/-- A string whose opening quote has been read. Bytes that are not UTF-8 are reported where the
first of them stands. -/
def string : Reader String := fun bs => do
  let (body, rest) ← stringBody (bs.length + 1) bs
  match ofBytes? body with
  | some s => return (s, rest)
  | none => throw ⟨.invalidUnicode, bs.length - (firstInvalid bs + 1), []⟩

inductive Numeral where
  | integer (n : Int)
  | floating (f : Float)

/-- Digits added to a number as long as it stays below `2 ^ 64`, with the count of digits that
were taken. -/
def accumulate (total : Nat) : List UInt8 → Nat × Nat
  | [] => (total, 0)
  | d :: ds =>
    let next := total * 10 + digitValue d
    if next < UInt64.size then
      let (n, count) := accumulate next ds
      (n, count + 1)
    else (total, 0)

def signed (negative : Bool) (f : Float) : Float :=
  if negative then -f else f

def floating (negative : Bool) (significand : Nat) (exponent : Int) : Reader Numeral := fun rest =>
  match Number.scale? significand exponent with
  | some f => .ok (.floating (signed negative f), rest)
  | none => .error (stopAt .numberOutOfRange rest)

/-- Exponent digits behind the first, or where they first pass 31 bits. -/
def exponentDigits (total : Nat) : Bytes → Nat × Bytes × Bool
  | [] => (total, [], true)
  | b :: rest =>
    if isDigit b then
      let next := total * 10 + digitValue b
      if next < Nat.pow 2 31 then exponentDigits next rest else (total, rest, false)
    else (total, b :: rest, true)

def exponent (negative : Bool) (significand : Nat) (start : Int) : Reader Numeral := fun bs => do
  let (down, bs) := match bs with
    | 43 :: rest => (false, rest)
    | 45 :: rest => (true, rest)
    | rest => (false, rest)
  match bs with
  | [] => throw (stopAt .endInValue [])
  | b :: rest =>
    if isDigit b then
      match exponentDigits (digitValue b) rest with
      | (e, rest, true) =>
        floating negative significand (if down then start - e else start + e) rest
      | (_, rest, false) =>
        if significand ≠ 0 && !down then throw (stopAt .numberOutOfRange rest)
        else return (.floating (signed negative 0.0), rest.dropWhile isDigit)
    else throw (stopAt .invalidNumber rest)

/-- What follows the digits before a point, when `dropped` digits of them found no room. -/
def afterWhole (negative : Bool) (significand : Nat) (dropped : Nat) : Reader Numeral := fun bs =>
  match bs with
  | 46 :: rest =>
    let digits := rest.takeWhile isDigit
    let behind := rest.dropWhile isDigit
    match digits with
    | [] =>
      .error (if behind.isEmpty then stopOn .endInValue behind else stopOn .invalidNumber behind)
    | _ :: _ =>
      let (n, count) := accumulate significand digits
      let power : Int := (dropped : Int) - count
      match behind with
      | 69 :: rest | 101 :: rest => exponent negative n power rest
      | _ => floating negative n power behind
  | 69 :: rest | 101 :: rest => exponent negative significand dropped rest
  | _ =>
    if dropped ≠ 0 then floating negative significand dropped bs
    else if !negative then .ok (.integer significand, bs)
    else if significand = 0 || Nat.pow 2 63 < significand then
      .ok (.floating (signed true significand.toUInt64.toFloat), bs)
    else .ok (.integer (-(significand : Int)), bs)

/-- A number whose minus has been read, if it has one. A negative number that is zero or beyond 64
bits is a floating one. -/
def numeral (negative : Bool) : Reader Numeral
  | [] => .error (stopAt .endInValue [])
  | b :: rest =>
    if b = 48 then
      match rest with
      | c :: _ =>
        if isDigit c then .error (stopOn .invalidNumber rest) else afterWhole negative 0 0 rest
      | [] => afterWhole negative 0 0 rest
    else if isDigit b then
      let digits := b :: rest.takeWhile isDigit
      let (n, count) := accumulate 0 digits
      afterWhole negative n (digits.length - count) (rest.dropWhile isDigit)
    else .error (stopAt .invalidNumber rest)

def Numeral.found : Numeral → Found
  | .integer n => .integer n
  | .floating f => .floating f

/-- The fault of a value that is not of the wanted kind; a scalar is read to its end first. -/
def mismatch (expected : String) (bs : Bytes) : Stop :=
  let place (found : Found) (rest : Bytes) : Stop := stopAt (.wrongKind found expected) rest
  let settle (r : Except Stop Stop) : Stop := match r with
    | .ok s => s
    | .error s => s
  match bs with
  | [] => stopOn .expectedValue []
  | b :: rest =>
    if b = 110 then settle ((word [117, 108, 108] rest).map (place .null))
    else if b = 116 then settle ((word [114, 117, 101] rest).map (place (.flag true)))
    else if b = 102 then settle ((word [97, 108, 115, 101] rest).map (place (.flag false)))
    else if b = 45 then settle ((numeral true rest).map fun (n, r) => place n.found r)
    else if isDigit b then settle ((numeral false bs).map fun (n, r) => place n.found r)
    else if b = 34 then settle ((string rest).map fun (s, r) => place (.text s) r)
    else if b = 91 then place .sequence bs
    else if b = 123 then place .map bs
    else stopOn .expectedValue bs

def colon (bs : Bytes) : Except Stop Bytes :=
  match skipSpace bs with
  | 58 :: rest => .ok rest
  | [] => .error (stopOn .endInObject [])
  | rest => .error (stopOn .expectedColon rest)

/-- The bytes of the next list element, or nothing before the closing bracket. -/
def nextElement (first : Bool) (bs : Bytes) : Except Stop (Option Bytes) :=
  match skipSpace bs with
  | [] => .error (stopOn .endInList [])
  | b :: rest =>
    if b = 93 then .ok none
    else if first then .ok (some (b :: rest))
    else if b = 44 then
      match skipSpace rest with
      | [] => .error (stopOn .endInValue [])
      | c :: more =>
        if c = 93 then .error (stopOn .trailingComma (c :: more)) else .ok (some (c :: more))
    else .error (stopOn .expectedListCommaOrEnd (b :: rest))

/-- The bytes behind the quote that opens the next member's name, or nothing before the closing
brace. -/
def nextName (first : Bool) (bs : Bytes) : Except Stop (Option Bytes) :=
  match skipSpace bs with
  | [] => .error (stopOn .endInObject [])
  | b :: rest =>
    if b = 125 then .ok none
    else if first then
      if b = 34 then .ok (some rest) else .error (stopOn .keyMustBeString (b :: rest))
    else if b = 44 then
      match skipSpace rest with
      | [] => .error (stopOn .endInValue [])
      | c :: more =>
        if c = 34 then .ok (some more)
        else if c = 125 then .error (stopOn .trailingComma (c :: more))
        else .error (stopOn .keyMustBeString (c :: more))
    else .error (stopOn .expectedObjectCommaOrEnd (b :: rest))

def endList (bs : Bytes) : Except Stop Bytes :=
  match skipSpace bs with
  | [] => .error (stopOn .endInList [])
  | b :: rest =>
    if b = 93 then .ok rest
    else if b = 44 then
      match skipSpace rest with
      | 93 :: more => .error (stopOn .trailingComma (93 :: more))
      | more => .error (stopOn .trailingCharacters more)
    else .error (stopOn .trailingCharacters (b :: rest))

/-- Nothing but blanks may follow the outermost value. -/
def whole {α : Type} (read : Reader α) (input : Bytes) : Except Stop α := do
  let (value, rest) ← read input
  match skipSpace rest with
  | [] => return value
  | rest => throw (stopOn .trailingCharacters rest)

end ClipFeed.Json
