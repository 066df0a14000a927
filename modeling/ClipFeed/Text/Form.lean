import ClipFeed.Text.Hex
/-!
Percent-encoded bytes and the pairs of a form. A percent sign without two hexadecimal digits
stands for itself; bytes that are not UTF-8 become replacement characters.
-/

namespace ClipFeed.Text

def percentDecode : Bytes → Bytes
  | [] => []
  | [a] => [a]
  | [a, b] => [a, b]
  | a :: b :: c :: rest =>
    if a = 37 then
      match hexValue? b, hexValue? c with
      | some high, some low => UInt8.ofNat (high * 16 + low) :: percentDecode rest
      | _, _ => a :: percentDecode (b :: c :: rest)
    else a :: percentDecode (b :: c :: rest)

namespace Form

/-- A name or a value: a plus is a space. -/
def decode (bs : Bytes) : String :=
  ofBytesLossy (percentDecode (bs.map fun b => if b = 43 then 32 else b))

/-- A piece split at its first equals sign; a piece without one is a name. -/
def pair (piece : Bytes) : String × String :=
  (decode (piece.takeWhile (· != 61)), decode ((piece.dropWhile (· != 61)).drop 1))

/-- The pairs between ampersands; empty pieces do not count. -/
def pairs (query : String) : List (String × String) :=
  (((bytes query).splitOn 38).filter fun piece => !piece.isEmpty).map pair

end Form

end ClipFeed.Text
