import ClipFeed.Text.Bytes
/-!
Hexadecimal digits as bytes. Digits are written in lower case and read in either.
-/

namespace ClipFeed.Text

/-- The number below sixteen that a digit denotes. -/
def hexValue? (b : UInt8) : Option Nat :=
  let n := b.toNat
  if 48 ≤ n && n ≤ 57 then some (n - 48)
  else if 97 ≤ n && n ≤ 102 then some (n - 87)
  else if 65 ≤ n && n ≤ 70 then some (n - 55)
  else none

def hexDigit (n : Nat) : UInt8 :=
  UInt8.ofNat (if n < 10 then 48 + n else 87 + n)

theorem hexValue?_hexDigit {n : Nat} (small : n < 16) : hexValue? (hexDigit n) = some n := by
  have : ∀ m : Fin 16, hexValue? (hexDigit m) = some m.val := by decide
  exact this ⟨n, small⟩

/-- Two digits for each byte. -/
def hexDigits (bs : Bytes) : Bytes :=
  bs.flatMap fun b => [hexDigit (b.toNat / 16), hexDigit (b.toNat % 16)]

/-- The bytes that pairs of digits denote. -/
def ofHexDigits? : Bytes → Option Bytes
  | [] => some []
  | [_] => none
  | high :: low :: more => do
    let high ← hexValue? high
    let low ← hexValue? low
    return UInt8.ofNat (high * 16 + low) :: (← ofHexDigits? more)

end ClipFeed.Text
