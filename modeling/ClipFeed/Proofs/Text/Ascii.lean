import ClipFeed.Text.Bytes
/-!
The bytes of texts: they follow the characters one after the other, an ASCII character is one byte,
and different texts have different bytes.
-/

namespace ClipFeed.Text

theorem bytes_append (s t : String) : bytes (s ++ t) = bytes s ++ bytes t := by
  simp [bytes, String.toUTF8_eq_toByteArray]

private theorem bytes_ofList (cs : List Char) :
    bytes (String.ofList cs) = cs.flatMap String.utf8EncodeChar := by
  simp [bytes, String.toUTF8_eq_toByteArray, List.utf8Encode]

theorem bytes_injective {s t : String} (same : bytes s = bytes t) : s = t := by
  have read := ofBytes?_bytes s
  rw [same, ofBytes?_bytes t] at read
  exact (Option.some.inj read).symm

theorem utf8EncodeChar_ascii {c : Char} (ascii : c.toNat < 128) :
    String.utf8EncodeChar c = [UInt8.ofNat c.toNat] := by
  have low : c.val.toNat ≤ 127 := Nat.le_of_lt_succ ascii
  simp only [String.utf8EncodeChar, low, ↓reduceIte]
  rfl

def asciiBytes (cs : List Char) : Bytes :=
  cs.map fun c => UInt8.ofNat c.toNat

@[simp] theorem asciiBytes_nil : asciiBytes [] = [] := rfl

@[simp] theorem asciiBytes_cons (c : Char) (cs : List Char) :
    asciiBytes (c :: cs) = UInt8.ofNat c.toNat :: asciiBytes cs := rfl

@[simp] theorem asciiBytes_append (cs ds : List Char) :
    asciiBytes (cs ++ ds) = asciiBytes cs ++ asciiBytes ds :=
  List.map_append

@[simp] theorem length_asciiBytes (cs : List Char) : (asciiBytes cs).length = cs.length :=
  List.length_map _

theorem bytes_ofList_ascii {cs : List Char} (ascii : ∀ c ∈ cs, c.toNat < 128) :
    bytes (String.ofList cs) = asciiBytes cs := by
  rw [bytes_ofList]
  induction cs with
  | nil => rfl
  | cons c cs ih =>
    rw [List.flatMap_cons, utf8EncodeChar_ascii (ascii c (List.mem_cons_self ..)),
      ih fun d member => ascii d (List.mem_cons_of_mem c member)]
    rfl

theorem toNat_ofNat_ascii {n : Nat} (small : n < 128) : (Char.ofNat n).toNat = n := by
  have valid : n.isValidChar := Or.inl (by omega)
  rw [Char.ofNat, dif_pos valid]
  rfl

/-- Bytes below 128 are the bytes of the text that is spelled by them. -/
theorem bytes_spelled {bs : Bytes} (ascii : ∀ b ∈ bs, b.toNat < 128) :
    bytes (String.ofList (bs.map fun b => Char.ofNat b.toNat)) = bs := by
  rw [bytes_ofList_ascii]
  · rw [asciiBytes, List.map_map]
    refine (List.map_congr_left fun b member => ?_).trans (List.map_id bs)
    simp [toNat_ofNat_ascii (ascii b member)]
  · intro c member
    obtain ⟨b, present, rfl⟩ := List.mem_map.mp member
    rw [toNat_ofNat_ascii (ascii b present)]
    exact ascii b present

end ClipFeed.Text
