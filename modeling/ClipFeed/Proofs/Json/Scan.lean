import ClipFeed.Json.Value
import ClipFeed.Proofs.Text.Decimal
import Mathlib.Tactic.SplitIfs
/-!
Pieces of JSON text read back as what was written: strings up to their closing quote, and integers
up to a byte that cannot continue a number.
-/

namespace ClipFeed.Json

open Text

private theorem escape_control {b : UInt8} (control : b < 32) (rest : Bytes) :
    escape (117 :: 48 :: 48 :: hexDigit (b.toNat / 16) :: hexDigit (b.toNat % 16) :: rest) =
      .ok ([b], rest) := by
  have small : b.toNat < 32 := control
  have high := hexValue?_hexDigit (show b.toNat / 16 < 16 by omega)
  have low := hexValue?_hexDigit (show b.toNat % 16 < 16 by omega)
  have zero : hexValue? 48 = some 0 := by decide
  have code : ((0 * 16 + 0) * 16 + b.toNat / 16) * 16 + b.toNat % 16 = b.toNat := by omega
  have plain : isTrailing b.toNat = false ∧ isLeading b.toNat = false := by
    simp only [isTrailing, isLeading, Bool.and_eq_false_iff, decide_eq_false_iff_not]
    omega
  have point : codePointBytes b.toNat = [b] := by
    have same := toNat_ofNat_ascii (show b.toNat < 128 by omega)
    rw [codePointBytes, utf8EncodeChar_ascii (by omega), same, UInt8.ofNat_toNat]
  simp only [escape, unicodeEscape, hex4, zero, high, low, code, bind, Except.bind, plain, point,
    ↓reduceIte, Bool.false_eq_true]
  rfl

private theorem stringBody_escape {b c : UInt8} {rest : Bytes} (fuel : Nat) (quoted : Bytes)
    (read : escape (c :: (quoted ++ rest)) = .ok ([b], rest)) :
    stringBody (fuel + 1) (92 :: c :: (quoted ++ rest)) =
      (stringBody fuel rest).map fun (tail, behind) => (b :: tail, behind) := by
  rw [stringBody]
  simp only [read, show (92 : UInt8) ≠ 34 by decide, ↓reduceIte, bind, Except.bind]
  cases stringBody fuel rest <;> rfl

/-- Reading takes the written form of a byte off in one round. -/
theorem stringBody_escapeByte (fuel : Nat) (b : UInt8) (rest : Bytes) :
    stringBody (fuel + 1) (escapeByte b ++ rest) =
      (stringBody fuel rest).map fun (tail, behind) => (b :: tail, behind) := by
  unfold escapeByte
  split_ifs with quote backslash printable backspace tab newline feed back
  · subst quote; exact stringBody_escape fuel [] rfl
  · subst backslash; exact stringBody_escape fuel [] rfl
  · have above : ¬ b < 32 := UInt8.not_lt.mpr printable
    simp only [List.cons_append, List.nil_append, stringBody, quote, backslash, above, ↓reduceIte,
      bind, Except.bind]
    cases stringBody fuel rest <;> rfl
  · subst backspace; exact stringBody_escape fuel [] rfl
  · subst tab; exact stringBody_escape fuel [] rfl
  · subst newline; exact stringBody_escape fuel [] rfl
  · subst feed; exact stringBody_escape fuel [] rfl
  · subst back; exact stringBody_escape fuel [] rfl
  · exact stringBody_escape fuel [48, 48, hexDigit (b.toNat / 16), hexDigit (b.toNat % 16)]
      (escape_control (UInt8.not_le.mp printable) rest)

private theorem stringBody_quoted (bs rest : Bytes) (fuel : Nat) (enough : bs.length < fuel) :
    stringBody fuel (bs.flatMap escapeByte ++ 34 :: rest) = .ok (bs, rest) := by
  induction bs generalizing fuel with
  | nil =>
    obtain ⟨fuel, rfl⟩ := Nat.exists_eq_succ_of_ne_zero (by omega : fuel ≠ 0)
    simp [stringBody]
  | cons b bs ih =>
    obtain ⟨fuel, rfl⟩ := Nat.exists_eq_succ_of_ne_zero (by omega : fuel ≠ 0)
    rw [List.flatMap_cons, List.append_assoc, stringBody_escapeByte,
      ih fuel (by simp only [List.length_cons] at enough; omega)]
    rfl

private theorem length_le_flatMap_escapeByte (bs : Bytes) :
    bs.length ≤ (bs.flatMap escapeByte).length := by
  induction bs with
  | nil => exact Nat.le_refl 0
  | cons b bs ih =>
    have one : 1 ≤ (escapeByte b).length := by
      unfold escapeByte
      split_ifs <;> simp
    simp only [List.flatMap_cons, List.length_append, List.length_cons]
    omega

/-- A written text reads back behind its opening quote. -/
theorem string_quoted (s : String) (rest : Bytes) :
    string ((bytes s).flatMap escapeByte ++ 34 :: rest) = .ok (s, rest) := by
  have long := length_le_flatMap_escapeByte (bytes s)
  have body := stringBody_quoted (bytes s) rest
    (((bytes s).flatMap escapeByte ++ 34 :: rest).length + 1) (by
      simp only [List.length_append, List.length_cons]; omega)
  simp only [string, body, bind, Except.bind, ofBytes?_bytes]
  rfl

/-- Bytes behind a value inside JSON text: nothing, a comma or a closing bracket. -/
def Delimited (rest : Bytes) : Prop :=
  ∀ b ∈ rest.head?, b = 44 ∨ b = 93 ∨ b = 125

theorem delimited_nil : Delimited [] := by
  simp [Delimited]

theorem delimited_comma (rest : Bytes) : Delimited (44 :: rest) := by
  simp [Delimited]

theorem delimited_bracket (rest : Bytes) : Delimited (93 :: rest) := by
  simp [Delimited]

theorem delimited_brace (rest : Bytes) : Delimited (125 :: rest) := by
  simp [Delimited]

private theorem isDigit_of_delimited {rest : Bytes} (closed : Delimited rest) :
    ∀ b ∈ rest.head?, isDigit b = false := by
  intro b front
  rcases closed b front with rfl | rfl | rfl <;> rfl

private theorem le_foldl_digits (ds : Bytes) (total : Nat) :
    total ≤ ds.foldl (fun n d => n * 10 + (d.toNat - 48)) total := by
  induction ds generalizing total with
  | nil => exact Nat.le_refl total
  | cons d ds ih =>
    have later := ih (total * 10 + (d.toNat - 48))
    simp only [List.foldl_cons]
    omega

private theorem accumulate_eq (ds : Bytes) (total : Nat)
    (room : ds.foldl (fun n d => n * 10 + (d.toNat - 48)) total < UInt64.size) :
    accumulate total ds = (ds.foldl (fun n d => n * 10 + (d.toNat - 48)) total, ds.length) := by
  induction ds generalizing total with
  | nil => rfl
  | cons d ds ih =>
    have next := le_foldl_digits ds (total * 10 + (d.toNat - 48))
    simp only [List.foldl_cons] at room ⊢
    have fits : total * 10 + digitValue d < UInt64.size := Nat.lt_of_le_of_lt next room
    simp only [accumulate, fits, ↓reduceIte, List.length_cons]
    rw [digitValue, ih _ room]

theorem afterWhole_delimited (negative : Bool) (n : Nat) {rest : Bytes} (closed : Delimited rest) :
    afterWhole negative n 0 rest =
      if !negative then .ok (.integer n, rest)
      else if n = 0 || Nat.pow 2 63 < n then
        .ok (.floating (signed true n.toUInt64.toFloat), rest)
      else .ok (.integer (-(n : Int)), rest) := by
  cases rest with
  | nil => simp [afterWhole]
  | cons b rest => rcases closed b rfl with rfl | rfl | rfl <;> simp [afterWhole]

/-- The digits of a number below `2 ^ 64` are read as that number. -/
theorem numeral_toDigits (negative : Bool) {n : Nat} (fits : n < UInt64.size) {rest : Bytes}
    (closed : Delimited rest) :
    numeral negative (asciiBytes (Nat.toDigits 10 n) ++ rest) = afterWhole negative n 0 rest := by
  rcases Nat.eq_zero_or_pos n with rfl | positive
  · have written : asciiBytes (Nat.toDigits 10 0) = [48] := by decide
    rw [written, List.singleton_append, numeral.eq_def]
    cases rest with
    | nil => rfl
    | cons b rest => simp [isDigit_of_delimited closed b rfl]
  · obtain ⟨c, cs, digits, nonzero⟩ := head_toDigits positive
    have isDigits : ∀ d ∈ c :: cs, d.isDigit := fun d member =>
      toDigits_isDigit (n := n) (digits ▸ member)
    have first : isDigit (UInt8.ofNat c.toNat) := isDigit_byte (isDigits c (List.mem_cons_self ..))
    have others : ∀ d ∈ cs, d.isDigit := fun d member => isDigits d (List.mem_cons_of_mem c member)
    have notZero : UInt8.ofNat c.toNat ≠ 48 := by
      intro zero
      have range := toNat_of_isDigit (isDigits c (List.mem_cons_self ..))
      have value := congrArg UInt8.toNat zero
      rw [UInt8.toNat_ofNat_of_lt' (by simp only [UInt8.size]; omega)] at value
      exact nonzero (Char.toNat_inj.mp value)
    have total : (asciiBytes (c :: cs)).foldl (fun n d => n * 10 + (d.toNat - 48)) 0 = n := by
      rw [← digits]; exact number_toDigits n
    have counted := accumulate_eq (asciiBytes (c :: cs)) 0 (by rw [total]; exact fits)
    rw [total] at counted
    rw [asciiBytes_cons] at counted
    have front := takeWhile_digits others (isDigit_of_delimited closed)
    have behind := dropWhile_digits others (isDigit_of_delimited closed)
    rw [← isDigit_eq] at front behind
    rw [digits, asciiBytes_cons, List.cons_append, numeral.eq_def]
    simp only [notZero, first, ↓reduceIte, front, behind, counted, Nat.sub_self]

end ClipFeed.Json
