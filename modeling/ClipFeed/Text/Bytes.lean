/-!
Texts as the bytes of their UTF-8 form. `ofBytes?` reads exactly the bytes that `bytes` writes.
-/

namespace ClipFeed.Text

abbrev Bytes := List UInt8

def bytes (s : String) : Bytes :=
  s.toUTF8.data.toList

def ofBytes? (bs : Bytes) : Option String :=
  String.fromUTF8? ⟨bs.toArray⟩

theorem ofBytes?_bytes (s : String) : ofBytes? (bytes s) = some s := by
  unfold ofBytes? bytes String.fromUTF8?
  rw [String.toUTF8_eq_toByteArray, Array.toArray_toList, dif_pos s.isValidUTF8]
  rfl

/-- How many continuation bytes a leading byte announces, with the range of the first of them. -/
def continuation? (lead : UInt8) : Option (Nat × UInt8 × UInt8) :=
  if 0xC2 ≤ lead && lead ≤ 0xDF then some (1, 0x80, 0xBF)
  else if lead == 0xE0 then some (2, 0xA0, 0xBF)
  else if lead == 0xED then some (2, 0x80, 0x9F)
  else if 0xE1 ≤ lead && lead ≤ 0xEF then some (2, 0x80, 0xBF)
  else if lead == 0xF0 then some (3, 0x90, 0xBF)
  else if 0xF1 ≤ lead && lead ≤ 0xF3 then some (3, 0x80, 0xBF)
  else if lead == 0xF4 then some (3, 0x80, 0x8F)
  else none

/-- How many of the next `count` bytes continue a sequence, the first within its own range. -/
def continued (count : Nat) (low high : UInt8) : Bytes → Nat
  | [] => 0
  | b :: rest =>
    match count with
    | 0 => 0
    | n + 1 => if low ≤ b && b ≤ high then continued n 0x80 0xBF rest + 1 else 0

/-- How many bytes belong to the sequence that opens the list, and whether it is complete. An
incomplete one ends before the first byte that cannot continue it. -/
def step : Bytes → Nat × Bool
  | [] => (0, true)
  | b :: rest =>
    if b < 0x80 then (1, true)
    else match continuation? b with
      | none => (1, false)
      | some (count, low, high) =>
        let found := continued count low high rest
        (found + 1, found == count)

/-- Where the first byte stands that keeps the bytes from being UTF-8. -/
def firstInvalid (bs : Bytes) : Nat :=
  go bs.length bs 0
where
  go : Nat → Bytes → Nat → Nat
    | 0, _, at_ => at_
    | fuel + 1, bs, at_ =>
      match bs with
      | [] => at_
      | _ :: _ =>
        match step bs with
        | (n, true) => go fuel (bs.drop n) (at_ + n)
        | (_, false) => at_

/-- Text in which every ill-formed stretch of bytes reads as one replacement character. -/
def ofBytesLossy (bs : Bytes) : String :=
  go bs.length bs ""
where
  go : Nat → Bytes → String → String
    | 0, _, out => out
    | fuel + 1, bs, out =>
      match bs with
      | [] => out
      | _ :: _ =>
        match step bs with
        | (n, true) => go fuel (bs.drop n) (out ++ (ofBytes? (bs.take n)).getD "")
        | (n, false) => go fuel (bs.drop n) (out.push '\uFFFD')

end ClipFeed.Text
