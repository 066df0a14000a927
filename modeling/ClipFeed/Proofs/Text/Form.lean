import ClipFeed.Proofs.Text.Ascii
import ClipFeed.Text.Form
/-!
Texts that a form carries as they are: letters and digits, the hyphen and the underscore. Such a
text has no byte that a form reads as anything but itself, so as a name or as a value it comes out
unchanged, whatever stands before and behind it.
-/

namespace ClipFeed.Text

private theorem ofBytes?_singleton {c : Char} (ascii : c.toNat < 128) :
    ofBytes? [UInt8.ofNat c.toNat] = some (String.ofList [c]) := by
  have spelled : bytes (String.ofList [c]) = [UInt8.ofNat c.toNat] :=
    bytes_ofList_ascii (by simpa using ascii)
  rw [← spelled, ofBytes?_bytes]

private theorem step_ascii {c : Char} (ascii : c.toNat < 128) (rest : Bytes) :
    step (UInt8.ofNat c.toNat :: rest) = (1, true) := by
  have low : UInt8.ofNat c.toNat < 0x80 := by
    rw [UInt8.lt_iff_toNat_lt, UInt8.toNat_ofNat_of_lt' (Nat.lt_trans ascii (by decide))]
    exact ascii
  simp only [step, low, ↓reduceIte]

private theorem ofBytesLossy_go_ascii {cs : List Char} (ascii : ∀ c ∈ cs, c.toNat < 128)
    {fuel : Nat} (enough : cs.length ≤ fuel) (out : String) :
    ofBytesLossy.go fuel (asciiBytes cs) out = out ++ String.ofList cs := by
  induction cs generalizing fuel out with
  | nil => cases fuel <;> simp [ofBytesLossy.go]
  | cons c cs ih =>
    obtain ⟨first, others⟩ := List.forall_mem_cons.mp ascii
    cases fuel with
    | zero => simp at enough
    | succ fuel =>
      have room : cs.length ≤ fuel := by simpa using enough
      simp only [asciiBytes_cons, ofBytesLossy.go, step_ascii first, List.drop_succ_cons,
        List.drop_zero, List.take_succ_cons, List.take_zero, ofBytes?_singleton first,
        Option.getD_some, ih others room, String.append_assoc, ← String.ofList_append]
      rfl

private theorem ofBytesLossy_ascii {cs : List Char} (ascii : ∀ c ∈ cs, c.toNat < 128) :
    ofBytesLossy (asciiBytes cs) = String.ofList cs := by
  have read := ofBytesLossy_go_ascii ascii (Nat.le_refl _) ""
  rw [ofBytesLossy, length_asciiBytes, read, String.empty_append]

/-- A letter or a digit of ASCII, a hyphen or an underscore. -/
def Verbatim (c : Char) : Prop :=
  ('A' ≤ c ∧ c ≤ 'Z') ∨ ('a' ≤ c ∧ c ≤ 'z') ∨ ('0' ≤ c ∧ c ≤ '9') ∨ c = '-' ∨ c = '_'

instance (c : Char) : Decidable (Verbatim c) :=
  inferInstanceAs (Decidable (_ ∨ _))

/-- A byte that is none of the signs of a form: it starts no escape, parts no fields, writes no
space and ends no name. -/
structure Plainly (b : UInt8) : Prop where
  percent : b ≠ 37
  ampersand : b ≠ 38
  plus : b ≠ 43
  equals : b ≠ 61

namespace Verbatim

private theorem toNat_bounds {c : Char} (verbatim : Verbatim c) :
    44 < c.toNat ∧ c.toNat < 128 ∧ c.toNat ≠ 61 := by
  have value (d : Char) : d ≤ c ↔ d.toNat ≤ c.toNat := UInt32.le_iff_toNat_le
  have bound (d : Char) : c ≤ d ↔ c.toNat ≤ d.toNat := UInt32.le_iff_toNat_le
  unfold Verbatim at verbatim
  simp only [value, bound] at verbatim
  rcases verbatim with upper | lower | digit | rfl | rfl
  · simp at upper; omega
  · simp at lower; omega
  · simp at digit; omega
  · decide
  · decide

theorem ascii {c : Char} (verbatim : Verbatim c) : c.toNat < 128 :=
  verbatim.toNat_bounds.2.1

private theorem plainly {c : Char} (verbatim : Verbatim c) : Plainly (UInt8.ofNat c.toNat) := by
  obtain ⟨low, high, other⟩ := verbatim.toNat_bounds
  have value : (UInt8.ofNat c.toNat).toNat = c.toNat :=
    UInt8.toNat_ofNat_of_lt' (Nat.lt_trans high (by decide))
  have apart {b : UInt8} (different : c.toNat ≠ b.toNat) : UInt8.ofNat c.toNat ≠ b := by
    intro same
    exact different (by rw [← value, same])
  constructor
  · exact apart (by change _ ≠ 37; omega)
  · exact apart (by change _ ≠ 38; omega)
  · exact apart (by change _ ≠ 43; omega)
  · exact apart other

end Verbatim

variable {s : String} (verbatim : ∀ c ∈ s.toList, Verbatim c)

include verbatim

private theorem bytes_verbatim : bytes s = asciiBytes s.toList := by
  have spelled := bytes_ofList_ascii fun c member => (verbatim c member).ascii
  rwa [String.ofList_toList] at spelled

private theorem plainly_of_mem_bytes {b : UInt8} (member : b ∈ bytes s) : Plainly b := by
  rw [bytes_verbatim verbatim] at member
  obtain ⟨c, present, rfl⟩ := List.mem_map.mp member
  exact (verbatim c present).plainly

omit verbatim in
private theorem percentDecode_plainly {bs : Bytes} (plain : ∀ b ∈ bs, Plainly b) :
    percentDecode bs = bs := by
  induction bs using percentDecode.induct with
  | case1 => rfl
  | case2 a => rfl
  | case3 a b => rfl
  | case4 b c rest _ _ _ _ _ => exact absurd rfl (plain 37 (List.mem_cons_self ..)).percent
  | case5 b c rest _ _ => exact absurd rfl (plain 37 (List.mem_cons_self ..)).percent
  | case6 a b c rest other ih =>
    rw [percentDecode, if_neg other, ih fun d member => plain d (List.mem_cons_of_mem _ member)]

namespace Form

theorem decode_verbatim : decode (bytes s) = s := by
  have plain := fun b member => plainly_of_mem_bytes verbatim (b := b) member
  have spaces : (bytes s).map (fun b => if b = 43 then 32 else b) = bytes s := by
    refine (List.map_congr_left fun b member => ?_).trans (List.map_id _)
    exact if_neg (plain b member).plus
  rw [decode, spaces, percentDecode_plainly plain, bytes_verbatim verbatim,
    ofBytesLossy_ascii fun c member => (verbatim c member).ascii, String.ofList_toList]

/-- A field whose name and value are read as they are is the pair of them. -/
theorem pairs_field {name : String} (named : ∀ c ∈ name.toList, Verbatim c) :
    pairs (name ++ "=" ++ s) = [(name, s)] := by
  have sign : bytes "=" = [61] := by rfl
  have written : bytes (name ++ "=" ++ s) = bytes name ++ 61 :: bytes s := by
    rw [bytes_append, bytes_append, sign, List.append_assoc, List.singleton_append]
  have whole : (bytes (name ++ "=" ++ s)).splitOn 38 = [bytes (name ++ "=" ++ s)] := by
    apply List.splitOn_eq_singleton
    rw [written]
    intro member
    rcases List.mem_append.mp member with inName | later
    · exact (plainly_of_mem_bytes named inName).ampersand rfl
    · rcases List.mem_cons.mp later with wrong | inValue
      · exact absurd wrong (by decide)
      · exact (plainly_of_mem_bytes verbatim inValue).ampersand rfl
  have nameless : ∀ b ∈ bytes name, (b != 61) = true := by
    intro b member
    simpa using (plainly_of_mem_bytes named member).equals
  have filled : [bytes name ++ 61 :: bytes s].filter (fun piece => !piece.isEmpty) =
      [bytes name ++ 61 :: bytes s] := by simp
  rw [pairs, whole, written, filled, List.map_cons, List.map_nil, pair,
    List.takeWhile_append_of_pos nameless, List.dropWhile_append_of_pos nameless]
  simp [decode_verbatim named, decode_verbatim verbatim]

end Form

end ClipFeed.Text
