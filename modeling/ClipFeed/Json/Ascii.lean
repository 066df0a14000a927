import ClipFeed.Json.Value
/-!
JSON in ASCII alone: every other character is written as the escapes of its UTF-16 units.
-/

namespace ClipFeed.Json

open Text

def escapeUnit (n : Nat) : List Char :=
  let digit (place : Nat) : Char := Char.ofNat (hexDigit (n / place % 16)).toNat
  ['\\', 'u', digit 4096, digit 256, digit 16, digit 1]

def units (c : Char) : List Nat :=
  let n := c.toNat
  if n < 0x10000 then [n]
  else [0xD800 + (n - 0x10000) / 0x400, 0xDC00 + (n - 0x10000) % 0x400]

def escapeChar (c : Char) : List Char :=
  if c.toNat < 0x7F then [c] else (units c).flatMap escapeUnit

def Value.renderAscii (v : Value) : String :=
  String.ofList (v.render.toList.flatMap escapeChar)

end ClipFeed.Json
