import ClipFeed.Proofs.Text.Ascii
import ClipFeed.Text.Base64Url
import ClipFeed.Text.Blank
/-!
URL-safe base64: reading gives back the bytes that were written, and a written form holds symbols
alone, so that trimming leaves it as it is.
-/

namespace ClipFeed.Text.Base64Url

private theorem symbol_ascii {n : Nat} (small : n < 64) : (symbol n).toNat < 128 := by
  revert n; decide

private theorem symbol_ne_pad {n : Nat} (small : n < 64) : symbol n ≠ pad := by
  revert n; decide

private theorem symbol_not_blank {n : Nat} (small : n < 64) :
    isBlank (Char.ofNat (symbol n).toNat) = false := by
  revert n; decide

theorem encodeBytes_symbols {bs : Bytes} {b : UInt8} (member : b ∈ encodeBytes bs) :
    ∃ n, n < 64 ∧ b = symbol n := by
  induction bs using encodeBytes.induct with
  | case1 => simp [encodeBytes] at member
  | case2 x =>
    have bound := x.toNat_lt
    simp only [encodeBytes, List.mem_cons, List.not_mem_nil, or_false] at member
    rcases member with rfl | rfl
    · exact ⟨_, by omega, rfl⟩
    · exact ⟨_, by omega, rfl⟩
  | case3 x y =>
    have bound := x.toNat_lt
    have next := y.toNat_lt
    simp only [encodeBytes, List.mem_cons, List.not_mem_nil, or_false] at member
    rcases member with rfl | rfl | rfl
    · exact ⟨_, by omega, rfl⟩
    · exact ⟨_, by omega, rfl⟩
    · exact ⟨_, by omega, rfl⟩
  | case4 x y z rest ih =>
    have bound := x.toNat_lt
    have next := y.toNat_lt
    have last := z.toNat_lt
    simp only [encodeBytes, List.mem_cons] at member
    rcases member with rfl | rfl | rfl | rfl | later
    · exact ⟨_, by omega, rfl⟩
    · exact ⟨_, by omega, rfl⟩
    · exact ⟨_, by omega, rfl⟩
    · exact ⟨_, by omega, rfl⟩
    · exact ih later

private theorem encodeBytes_eq_nil {bs : Bytes} (empty : encodeBytes bs = []) : bs = [] := by
  match bs, empty with
  | [], _ => rfl
  | [_], empty => simp [encodeBytes] at empty
  | [_, _], empty => simp [encodeBytes] at empty
  | _ :: _ :: _ :: _, empty => simp [encodeBytes] at empty

theorem lastGroup_symbols (start index : Nat) (ns : List Nat) (small : ∀ n ∈ ns, n < 64) :
    lastGroup start index none (ns.map symbol) = .ok ns := by
  induction ns generalizing index with
  | nil => rfl
  | cons n ns ih =>
    have bound := small n (List.mem_cons_self ..)
    have tail := ih (index + 1) fun m member => small m (List.mem_cons_of_mem n member)
    simp only [List.map_cons, lastGroup, symbol_ne_pad bound, value?_symbol bound, tail, ↓reduceIte]
    rfl

private theorem inGroup_symbol {n : Nat} (small : n < 64) (offset : Nat) :
    inGroup (symbol n) offset = .ok n := by
  simp [inGroup, value?_symbol small]

/-- Four numbers of six bits each spell the three bytes that they were cut from. -/
theorem triple_split (x y z : UInt8) :
    triple (x.toNat / 4) (x.toNat % 4 * 16 + y.toNat / 16) (y.toNat % 16 * 4 + z.toNat / 64)
      (z.toNat % 64) = [x, y, z] := by
  have bound := x.toNat_lt
  have next := y.toNat_lt
  have last := z.toNat_lt
  have first : x.toNat / 4 * 4 + (x.toNat % 4 * 16 + y.toNat / 16) / 16 = x.toNat := by omega
  have second : (x.toNat % 4 * 16 + y.toNat / 16) % 16 * 16 +
      (y.toNat % 16 * 4 + z.toNat / 64) / 4 = y.toNat := by omega
  have third : (y.toNat % 16 * 4 + z.toNat / 64) % 4 * 64 + z.toNat % 64 = z.toNat := by omega
  simp only [triple, first, second, third, UInt8.ofNat_toNat]

private theorem decodeLast_one (start : Nat) (x : UInt8) :
    decodeLast start (encodeBytes [x]) = .ok [x] := by
  have bound := x.toNat_lt
  have read := lastGroup_symbols start 0 [x.toNat / 4, x.toNat % 4 * 16] (by
    simp only [List.mem_cons, List.not_mem_nil, or_false]; omega)
  have whole : x.toNat / 4 * 4 + x.toNat % 4 = x.toNat := by omega
  simp only [List.map_cons, List.map_nil] at read
  simp [decodeLast, encodeBytes, read, whole, bind, Except.bind, pure, Except.pure,
    -UInt8.ofNat_add, -UInt8.ofNat_mul]

private theorem decodeLast_two (start : Nat) (x y : UInt8) :
    decodeLast start (encodeBytes [x, y]) = .ok [x, y] := by
  have bound := x.toNat_lt
  have next := y.toNat_lt
  have read := lastGroup_symbols start 0
    [x.toNat / 4, x.toNat % 4 * 16 + y.toNat / 16, y.toNat % 16 * 4] (by
      simp only [List.mem_cons, List.not_mem_nil, or_false]; omega)
  have spelled := triple_split x y 0
  simp only [UInt8.toNat_zero, Nat.zero_div, Nat.add_zero, Nat.zero_mod] at spelled
  simp only [List.map_cons, List.map_nil] at read
  simp [decodeLast, encodeBytes, read, spelled, bind, Except.bind, pure, Except.pure]

private theorem decodeLast_three (start : Nat) (x y z : UInt8) :
    decodeLast start (encodeBytes [x, y, z]) = .ok [x, y, z] := by
  have bound := x.toNat_lt
  have next := y.toNat_lt
  have last := z.toNat_lt
  have read := lastGroup_symbols start 0
    [x.toNat / 4, x.toNat % 4 * 16 + y.toNat / 16, y.toNat % 16 * 4 + z.toNat / 64,
      z.toNat % 64] (by simp only [List.mem_cons, List.not_mem_nil, or_false]; omega)
  simp only [List.map_cons, List.map_nil] at read
  simp [decodeLast, encodeBytes, read, triple_split, bind, Except.bind, pure, Except.pure]

private theorem decodeGroups_encodeBytes (start : Nat) {bs : Bytes} (some : bs ≠ []) :
    decodeGroups start (encodeBytes bs) = .ok bs := by
  induction bs using encodeBytes.induct generalizing start with
  | case1 => exact absurd rfl some
  | case2 x => simpa [decodeGroups, encodeBytes] using decodeLast_one start x
  | case3 x y => simpa [decodeGroups, encodeBytes] using decodeLast_two start x y
  | case4 x y z rest ih =>
    have bound := x.toNat_lt
    have next := y.toNat_lt
    have last := z.toNat_lt
    cases tail : encodeBytes rest with
    | nil =>
      obtain rfl := encodeBytes_eq_nil tail
      simpa [decodeGroups, encodeBytes] using decodeLast_three start x y z
    | cons e more =>
      have rest_ne : rest ≠ [] := by rintro rfl; simp [encodeBytes] at tail
      have later := ih (start + 4) rest_ne
      rw [tail] at later
      have p : x.toNat / 4 < 64 := by omega
      have q : x.toNat % 4 * 16 + y.toNat / 16 < 64 := by omega
      have r : y.toNat % 16 * 4 + z.toNat / 64 < 64 := by omega
      have s : z.toNat % 64 < 64 := by omega
      simp [decodeGroups, encodeBytes, tail, later, inGroup_symbol p, inGroup_symbol q,
        inGroup_symbol r, inGroup_symbol s, triple_split, bind, Except.bind, pure, Except.pure]

private theorem decodeBytes_encodeBytes (bs : Bytes) : decodeBytes (encodeBytes bs) = .ok bs := by
  by_cases empty : bs = []
  · subst bs; rfl
  · have nonempty : encodeBytes bs ≠ [] := fun none => empty (encodeBytes_eq_nil none)
    obtain ⟨n, small, same⟩ := encodeBytes_symbols (List.getLast_mem nonempty)
    simp [decodeBytes, List.getLast?_eq_some_getLast nonempty, same, value?_symbol small,
      decodeGroups_encodeBytes 0 empty]

private theorem bytes_encode (bs : Bytes) : bytes (encode bs) = encodeBytes bs := by
  apply bytes_spelled
  intro b member
  obtain ⟨n, small, rfl⟩ := encodeBytes_symbols member
  exact symbol_ascii small

theorem decode_encode (bs : Bytes) : decode (encode bs) = .ok bs := by
  rw [decode, bytes_encode, decodeBytes_encodeBytes]

theorem encode_not_blank {bs : Bytes} {c : Char} (member : c ∈ (encode bs).toList) :
    isBlank c = false := by
  rw [encode, String.toList_ofList] at member
  obtain ⟨b, present, rfl⟩ := List.mem_map.mp member
  obtain ⟨n, small, rfl⟩ := encodeBytes_symbols present
  exact symbol_not_blank small

end ClipFeed.Text.Base64Url
