import ClipFeed.Json.Scan
import ClipFeed.Moment.Rfc3339
import ClipFeed.Proofs.Text.Ascii
/-!
Decimal digits as bytes. The digits of a number denote it again, as do its digits behind any zeros,
and no number above zero is written with a zero in front.
-/

namespace ClipFeed.Text

theorem toNat_of_isDigit {c : Char} (digit : c.isDigit) : 48 ≤ c.toNat ∧ c.toNat ≤ 57 := by
  simp only [Char.isDigit, Bool.and_eq_true, decide_eq_true_eq, UInt32.le_iff_toNat_le] at digit
  exact digit

theorem toDigits_isDigit {n : Nat} {c : Char} (member : c ∈ Nat.toDigits 10 n) : c.isDigit :=
  Nat.isDigit_of_mem_toDigits (by decide) (by decide) member

private theorem toDigits_ascii {n : Nat} {c : Char} (member : c ∈ Nat.toDigits 10 n) :
    c.toNat < 128 := by
  have range := toNat_of_isDigit (toDigits_isDigit member)
  omega

theorem toDigits_ne_nil (n : Nat) : Nat.toDigits 10 n ≠ [] := by
  rw [Nat.toDigits_eq_if (by decide)]
  split <;> simp

theorem bytes_repr (n : Nat) : bytes n.repr = asciiBytes (Nat.toDigits 10 n) :=
  bytes_ofList_ascii fun _ member => toDigits_ascii member

theorem isDigit_byte {c : Char} (digit : c.isDigit) : Moment.isDigit (UInt8.ofNat c.toNat) := by
  have range := toNat_of_isDigit digit
  have value : (UInt8.ofNat c.toNat).toNat = c.toNat :=
    UInt8.toNat_ofNat_of_lt' (by simp only [UInt8.size]; omega)
  simp only [Moment.isDigit, Bool.and_eq_true, decide_eq_true_eq, UInt8.le_iff_toNat_le, value]
  exact range

theorem all_isDigit {cs : List Char} (digits : ∀ c ∈ cs, c.isDigit) :
    (asciiBytes cs).all Moment.isDigit := by
  rw [List.all_eq_true]
  intro b member
  obtain ⟨c, present, rfl⟩ := List.mem_map.mp member
  exact isDigit_byte (digits c present)

theorem takeWhile_digits {cs : List Char} {rest : Bytes} (digits : ∀ c ∈ cs, c.isDigit)
    (closed : ∀ b ∈ rest.head?, Moment.isDigit b = false) :
    (asciiBytes cs ++ rest).takeWhile Moment.isDigit = asciiBytes cs := by
  rw [List.takeWhile_append_of_pos (List.all_eq_true.mp (all_isDigit digits))]
  cases rest with
  | nil => simp
  | cons b rest => simp [closed b rfl]

theorem dropWhile_digits {cs : List Char} {rest : Bytes} (digits : ∀ c ∈ cs, c.isDigit)
    (closed : ∀ b ∈ rest.head?, Moment.isDigit b = false) :
    (asciiBytes cs ++ rest).dropWhile Moment.isDigit = rest := by
  rw [List.dropWhile_append_of_pos (List.all_eq_true.mp (all_isDigit digits))]
  cases rest with
  | nil => simp
  | cons b rest => simp [closed b rfl]

theorem isDigit_eq : Json.isDigit = Moment.isDigit := rfl

theorem number_append (ds es : Bytes) :
    Moment.number (ds ++ es) =
      es.foldl (fun n d => n * 10 + (d.toNat - 48)) (Moment.number ds) := by
  simp [Moment.number]

private theorem digit_value {c : Char} (digit : c.isDigit) :
    (UInt8.ofNat c.toNat).toNat - 48 = c.toNat - '0'.toNat := by
  have range := toNat_of_isDigit digit
  rw [UInt8.toNat_ofNat_of_lt' (by simp [UInt8.size]; omega)]
  rfl

private theorem foldl_asciiBytes {cs : List Char} (digits : ∀ c ∈ cs, c.isDigit) (start : Nat) :
    (asciiBytes cs).foldl (fun n d => n * 10 + (d.toNat - 48)) start =
      Nat.ofDigitChars 10 cs start := by
  induction cs generalizing start with
  | nil => rfl
  | cons c cs ih =>
    have value := digit_value (digits c (List.mem_cons_self ..))
    simp only [asciiBytes_cons, List.foldl_cons, value, Nat.ofDigitChars]
    rw [ih fun d member => digits d (List.mem_cons_of_mem c member), Nat.ofDigitChars,
      Nat.mul_comm start 10]

theorem number_toDigits (n : Nat) : Moment.number (asciiBytes (Nat.toDigits 10 n)) = n := by
  rw [Moment.number, foldl_asciiBytes fun _ member => toDigits_isDigit member]
  exact Nat.ofDigitChars_toDigits (by decide) (by decide)

theorem number_zeros (count : Nat) (ds : Bytes) :
    Moment.number (List.replicate count 48 ++ ds) = Moment.number ds := by
  induction count with
  | zero => rfl
  | succ count ih => simpa [List.replicate_succ, Moment.number] using ih

private theorem digitChar_ne_zero {n : Nat} (positive : 0 < n) (small : n < 10) :
    n.digitChar ≠ '0' := by
  have : ∀ m : Fin 10, 0 < m.val → m.val.digitChar ≠ '0' := by decide
  exact this ⟨n, small⟩ positive

/-- Only zero itself is written with a zero in front. -/
theorem head_toDigits {n : Nat} (positive : 0 < n) :
    ∃ c cs, Nat.toDigits 10 n = c :: cs ∧ c ≠ '0' := by
  induction n using Nat.strongRecOn with
  | _ n ih =>
    rw [Nat.toDigits_eq_if (by decide)]
    by_cases small : n < 10
    · exact ⟨n.digitChar, [], by simp [small], digitChar_ne_zero positive small⟩
    · obtain ⟨c, cs, digits, nonzero⟩ := ih (n / 10) (by omega) (by omega)
      exact ⟨c, cs ++ [(n % 10).digitChar], by simp [small, digits], nonzero⟩

end ClipFeed.Text
