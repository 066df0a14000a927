import ClipFeed.Proofs.Text.Decimal
import ClipFeed.Text.Integer
/-!
Texts that denote whole numbers: one optional sign and at least one ASCII digit. The number that a
text denotes is the one that is read from it, it is kept in 64 bits wherever it fits, and the
decimal form of a number denotes that number.
-/

namespace ClipFeed.Text

/-- Whether characters are an optional sign and digits that denote a number. -/
inductive Denotes : List Char → Int → Prop where
  | plain {ds : List Char} (present : ds ≠ []) (digits : ∀ c ∈ ds, c.isDigit) :
      Denotes ds (Nat.ofDigitChars 10 ds 0)
  | plus {ds : List Char} (present : ds ≠ []) (digits : ∀ c ∈ ds, c.isDigit) :
      Denotes ('+' :: ds) (Nat.ofDigitChars 10 ds 0)
  | minus {ds : List Char} (present : ds ≠ []) (digits : ∀ c ∈ ds, c.isDigit) :
      Denotes ('-' :: ds) (-(Nat.ofDigitChars 10 ds 0 : Int))

private theorem natural?_eq_some_iff {ds : List Char} {n : Nat} :
    natural? ds = some n ↔ ds ≠ [] ∧ (∀ c ∈ ds, c.isDigit) ∧ Nat.ofDigitChars 10 ds 0 = n := by
  rw [natural?, Option.ite_none_right_eq_some]
  simp [and_assoc]

private theorem integer?_minus (ds : List Char) :
    integer? ('-' :: ds) = (natural? ds).map fun n : Nat => -(n : Int) := by
  rw [integer?]
  cases natural? ds <;> rfl

private theorem integer?_plus (ds : List Char) :
    integer? ('+' :: ds) = (natural? ds).map Int.ofNat := by
  rw [integer?]
  cases natural? ds <;> rfl

private theorem integer?_plain {cs : List Char} (unsigned : ∀ ds, cs ≠ '-' :: ds ∧ cs ≠ '+' :: ds) :
    integer? cs = (natural? cs).map Int.ofNat := by
  unfold integer?
  split
  · next ds => exact absurd rfl (unsigned ds).1
  · next ds => exact absurd rfl (unsigned ds).2
  · cases natural? cs <;> rfl

private theorem denotes_iff {cs : List Char} {n : Int} : Denotes cs n ↔ integer? cs = some n := by
  constructor
  · intro denotes
    cases denotes with
    | plain present digits =>
      have unsigned (ds : List Char) : cs ≠ '-' :: ds ∧ cs ≠ '+' :: ds := by
        constructor
        · rintro rfl
          exact absurd (digits '-' List.mem_cons_self) (by decide)
        · rintro rfl
          exact absurd (digits '+' List.mem_cons_self) (by decide)
      rw [integer?_plain unsigned, natural?_eq_some_iff.mpr ⟨present, digits, rfl⟩]
      rfl
    | plus present digits =>
      rw [integer?_plus, natural?_eq_some_iff.mpr ⟨present, digits, rfl⟩]
      rfl
    | minus present digits =>
      rw [integer?_minus, natural?_eq_some_iff.mpr ⟨present, digits, rfl⟩]
      rfl
  · intro read
    by_cases minus : ∃ ds, cs = '-' :: ds
    · obtain ⟨ds, rfl⟩ := minus
      rw [integer?_minus] at read
      obtain ⟨m, natural, rfl⟩ := Option.map_eq_some_iff.mp read
      obtain ⟨present, digits, rfl⟩ := natural?_eq_some_iff.mp natural
      exact .minus present digits
    · by_cases plus : ∃ ds, cs = '+' :: ds
      · obtain ⟨ds, rfl⟩ := plus
        rw [integer?_plus] at read
        obtain ⟨m, natural, rfl⟩ := Option.map_eq_some_iff.mp read
        obtain ⟨present, digits, rfl⟩ := natural?_eq_some_iff.mp natural
        exact .plus present digits
      · rw [integer?_plain fun ds => ⟨fun same => minus ⟨ds, same⟩, fun same => plus ⟨ds, same⟩⟩]
          at read
        obtain ⟨m, natural, rfl⟩ := Option.map_eq_some_iff.mp read
        obtain ⟨present, digits, rfl⟩ := natural?_eq_some_iff.mp natural
        exact .plain present digits

theorem toInt_ofInt {n : Int} (fits : Fits64 n) : (Int64.ofInt n).toInt = n :=
  Int64.toInt_ofInt_of_le fits.1 (Int.lt_of_le_of_lt fits.2 (by decide))

theorem parseInt64?_eq_some_iff {s : String} {n : Int64} :
    parseInt64? s = some n ↔ Denotes s.toList n.toInt := by
  rw [parseInt64?, denotes_iff, Option.bind_eq_some_iff]
  constructor
  · rintro ⟨m, read, fitted⟩
    simp only [int64?, Option.ite_none_right_eq_some, Option.some.injEq] at fitted
    obtain ⟨fits, rfl⟩ := fitted
    rwa [toInt_ofInt fits]
  · intro read
    exact ⟨n.toInt, read, int64?_toInt n⟩

private theorem parseInt64?_toString (n : Int64) : parseInt64? (toString n) = some n := by
  rw [parseInt64?_eq_some_iff]
  change Denotes (toString n.toInt).toList n.toInt
  cases n.toInt with
  | ofNat m =>
    have digits := Denotes.plain (toDigits_ne_nil m) fun _ => toDigits_isDigit
    rw [Nat.ofDigitChars_toDigits (by decide) (by decide)] at digits
    change Denotes (Nat.repr m).toList m
    rw [Nat.toList_repr]
    exact digits
  | negSucc m =>
    have digits := Denotes.minus (toDigits_ne_nil (m + 1)) fun _ => toDigits_isDigit
    rw [Nat.ofDigitChars_toDigits (by decide) (by decide)] at digits
    change Denotes ("-" ++ Nat.repr (m + 1)).toList _
    rw [String.toList_append, Nat.toList_repr]
    exact digits

theorem toString_injective {n m : Int64} (same : toString n = toString m) : n = m := by
  have read := parseInt64?_toString n
  rw [same, parseInt64?_toString m] at read
  exact (Option.some.inj read).symm

end ClipFeed.Text
