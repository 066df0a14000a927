import ClipFeed.Net.Address
import ClipFeed.Proofs.Text.Decimal
import Mathlib.Data.List.TakeWhile
/-!
Reading a socket address that was put together from a host and a port. Whatever the host is, every
reader leaves an end of the text, and the last end is the port: no other colon opens an end of the
text that holds digits only.
-/

namespace ClipFeed.Net

variable {α β : Type}

/-- Whether what a reader leaves is an end of what it was given. -/
def Trims (read : Reader α) : Prop :=
  ∀ ⦃cs a rest⦄, read cs = some (a, rest) → rest <:+ cs

theorem trims_number (radix bound : Nat) : Trims (number radix bound) := by
  intro cs n rest taken
  simp only [number, Option.ite_none_left_eq_some, Option.some.injEq, Prod.mk.injEq] at taken
  obtain ⟨-, -, rfl⟩ := taken
  exact List.dropWhile_suffix _

theorem trims_symbol (c : Char) : Trims (symbol c) := by
  intro cs u rest taken
  cases cs with
  | nil => cases taken
  | cons d ds =>
    simp only [symbol, Option.ite_none_right_eq_some, Option.some.injEq, Prod.mk.injEq] at taken
    obtain ⟨-, -, rfl⟩ := taken
    exact List.suffix_cons _ _

private theorem trims_byte : Trims byte := by
  intro cs n rest taken
  unfold byte at taken
  split at taken
  · simp only [Option.ite_none_left_eq_some, Option.some.injEq, Prod.mk.injEq] at taken
    obtain ⟨-, -, rfl⟩ := taken
    exact List.suffix_cons _ _
  · exact trims_number _ _ taken

theorem Trims.bind {read : Reader α} {more : α → Reader β} (first : Trims read)
    (second : ∀ a, Trims (more a)) : Trims fun cs => (read cs).bind fun (a, cs) => more a cs := by
  intro cs b rest taken
  obtain ⟨⟨a, middle⟩, one, two⟩ := Option.bind_eq_some_iff.mp taken
  exact (second a two).trans (first one)

private theorem trims_fourBytes : Trims fourBytes := by
  have finish (a b c d : Nat) : Trims fun cs => some ((a, b, c, d), cs) := by
    intro cs _ rest taken
    obtain ⟨-, rfl⟩ := Prod.mk.inj (Option.some.inj taken)
    exact List.suffix_refl _
  have dot := trims_symbol '.'
  exact trims_byte.bind fun a => dot.bind fun _ => trims_byte.bind fun b => dot.bind fun _ =>
    trims_byte.bind fun c => dot.bind fun _ => trims_byte.bind fun d => finish a b c d

private theorem trims_group : Trims group := by
  intro cs n rest taken
  unfold group at taken
  rw [Option.ite_none_left_eq_some] at taken
  exact trims_number _ _ taken.2

private theorem groups_suffix (left : Nat) (first : Bool) (cs : List Char) :
    (groups left first cs).2.2 <:+ cs := by
  induction left generalizing first cs with
  | zero => exact List.suffix_refl _
  | succ left ih =>
    unfold groups
    split
    · exact List.suffix_refl _
    · next body opened =>
      have behind : body <:+ cs := by
        cases first with
        | true =>
          obtain ⟨-, rfl⟩ := Prod.mk.inj (Option.some.inj opened)
          exact List.suffix_refl _
        | false => exact trims_symbol _ opened
      split
      · next a b c d rest bytes =>
        split at bytes
        · cases bytes
        · exact (trims_fourBytes bytes).trans behind
      · split
        · exact List.suffix_refl _
        · next g rest taken => exact (ih false rest).trans ((trims_group taken).trans behind)

private theorem trims_eightGroups : Trims eightGroups := by
  intro cs gs rest taken
  have head := groups_suffix 8 true cs
  unfold eightGroups at taken
  split at taken
  rename_i opening bytes middle groups
  rw [groups] at head
  split at taken
  · obtain ⟨-, rfl⟩ := Prod.mk.inj (Option.some.inj taken)
    exact head
  · split at taken
    · cases taken
    · split at taken
      · next behind =>
        obtain ⟨-, rfl⟩ := Prod.mk.inj (Option.some.inj taken)
        have colons : behind <:+ ':' :: ':' :: behind := ⟨[':', ':'], rfl⟩
        exact (groups_suffix _ true behind).trans (colons.trans head)
      · cases taken

private theorem trims_zone : Trims zone := by
  intro cs z rest taken
  unfold zone at taken
  split at taken
  · exact (trims_number _ _ taken).trans (List.suffix_cons _ _)
  · obtain ⟨-, rfl⟩ := Prod.mk.inj (Option.some.inj taken)
    exact List.suffix_refl _

/-- An address was read from a host and, at the end of the text, its port. -/
theorem exists_port_of_read {cs rest : List Char} {a : Address}
    (taken : Address.read cs = some (a, rest)) :
    ∃ port, port <:+ cs ∧ portNumber port = some (a.port, rest) := by
  unfold Address.read at taken
  split at taken
  · next inside =>
    obtain ⟨⟨gs, zoned⟩, grouped, taken⟩ := Option.bind_eq_some_iff.mp taken
    obtain ⟨⟨z, closing⟩, inZone, taken⟩ := Option.bind_eq_some_iff.mp taken
    obtain ⟨⟨u, port⟩, closed, taken⟩ := Option.bind_eq_some_iff.mp taken
    obtain ⟨⟨p, left⟩, read, taken⟩ := Option.bind_eq_some_iff.mp taken
    obtain ⟨rfl, rfl⟩ := Prod.mk.inj (Option.some.inj taken)
    refine ⟨port, ?_, read⟩
    have ofZone := (trims_symbol _ closed).trans (trims_zone inZone)
    exact ofZone.trans ((trims_eightGroups grouped).trans (List.suffix_cons _ _))
  · obtain ⟨⟨⟨a, b, c, d⟩, port⟩, bytes, taken⟩ := Option.bind_eq_some_iff.mp taken
    obtain ⟨⟨p, left⟩, read, taken⟩ := Option.bind_eq_some_iff.mp taken
    obtain ⟨rfl, rfl⟩ := Prod.mk.inj (Option.some.inj taken)
    exact ⟨port, trims_fourBytes bytes, read⟩

private theorem eq_colon_digits_of_portNumber {cs : List Char} {p : Nat}
    (read : portNumber cs = some (p, [])) :
    ∃ ds, cs = ':' :: ds ∧ (∀ c ∈ ds, (digitValue? c).any (· < 10)) ∧
      number 10 65535 ds = some (p, []) := by
  obtain ⟨⟨u, ds⟩, colon, numbered⟩ := Option.bind_eq_some_iff.mp read
  cases cs with
  | nil => cases colon
  | cons c cs =>
    simp only [symbol, Option.ite_none_right_eq_some, Option.some.injEq, Prod.mk.injEq] at colon
    obtain ⟨rfl, -, rfl⟩ := colon
    refine ⟨cs, rfl, ?_, numbered⟩
    simp only [number, Option.ite_none_left_eq_some, Option.some.injEq, Prod.mk.injEq] at numbered
    exact List.dropWhile_eq_nil_iff.mp numbered.2.2

private theorem eq_of_suffix {c : Char} {one two text : List Char} (first : c :: one <:+ text)
    (second : c :: two <:+ text) (plain : c ∉ one) (bare : c ∉ two) : one = two := by
  rcases List.suffix_or_suffix_of_suffix first second with inside | inside
  · rcases List.suffix_cons_iff.mp inside with same | deep
    · exact (List.cons.inj same).2
    · exact absurd (deep.subset List.mem_cons_self) bare
  · rcases List.suffix_cons_iff.mp inside with same | deep
    · exact (List.cons.inj same).2.symm
    · exact absurd (deep.subset List.mem_cons_self) plain

private theorem digitValue?_of_isDigit {c : Char} (digit : c.isDigit) :
    digitValue? c = some (c.toNat - '0'.toNat) := by
  rw [digitValue?, if_pos digit]

private theorem foldl_digitValue? {cs : List Char} (digits : ∀ c ∈ cs, c.isDigit) (start : Nat) :
    cs.foldl (fun n c => n * 10 + (digitValue? c).getD 0) start = Nat.ofDigitChars 10 cs start := by
  induction cs generalizing start with
  | nil => rfl
  | cons c cs ih =>
    rw [List.foldl_cons, digitValue?_of_isDigit (digits c List.mem_cons_self), Option.getD_some,
      ih fun d member => digits d (List.mem_cons_of_mem c member), Nat.mul_comm start 10]
    rfl

theorem number_toDigits {n bound : Nat} (small : n ≤ bound) :
    number 10 bound (Nat.toDigits 10 n) = some (n, []) := by
  have plain : ∀ c ∈ Nat.toDigits 10 n, c.isDigit := fun _ => Text.toDigits_isDigit
  have digits : ∀ c ∈ Nat.toDigits 10 n, (digitValue? c).any (· < 10) := by
    intro c member
    have digit := plain c member
    have range := Text.toNat_of_isDigit digit
    rw [digitValue?_of_isDigit digit, Option.any_some, decide_eq_true_eq]
    change c.toNat - 48 < 10
    omega
  have value := foldl_digitValue? plain 0
  have present : (Nat.toDigits 10 n).isEmpty = false := by
    simp
  have all := List.takeWhile_eq_self_iff.mpr digits
  have none := List.dropWhile_eq_nil_iff.mpr digits
  rw [Nat.ofDigitChars_toDigits (by decide) (by decide)] at value
  simp only [number, all, none, value, present]
  simp [small]

private theorem toList_toString (port : UInt16) :
    (toString port).toList = Nat.toDigits 10 port.toNat := by
  change (toString port.toNat).toList = _
  rw [Nat.toString_eq_ofList_toDigits, String.toList_ofList]

/-- The port of an address that was put together from a host and a port is that port. -/
theorem port_of_parse {host : String} {port : UInt16} {a : Address}
    (parsed : Address.parse? (host ++ ":" ++ toString port) = some a) :
    a.port = port.toNat := by
  unfold Address.parse? at parsed
  split at parsed
  · next read =>
    obtain rfl := Option.some.inj parsed
    obtain ⟨_, behind, read⟩ := exists_port_of_read read
    obtain ⟨ds, rfl, digits, numbered⟩ := eq_colon_digits_of_portNumber read
    have written : ':' :: Nat.toDigits 10 port.toNat <:+ (host ++ ":" ++ toString port).toList := by
      refine ⟨host.toList, ?_⟩
      simp [toList_toString]
    have bare : ':' ∉ ds := fun member => absurd (digits _ member) (by decide)
    have plain : ':' ∉ Nat.toDigits 10 port.toNat := fun member =>
      absurd (Text.toDigits_isDigit member) (by decide)
    have small : port.toNat ≤ 65535 := Nat.le_of_lt_succ port.toNat_lt
    rw [eq_of_suffix behind written bare plain, number_toDigits small] at numbered
    exact (Prod.mk.inj (Option.some.inj numbered)).1.symm
  · cases parsed

end ClipFeed.Net
