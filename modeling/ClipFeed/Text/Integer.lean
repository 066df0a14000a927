/-!
Whole numbers in decimal. A reader takes one optional sign and at least one ASCII digit, and
nothing else; leading zeros do not count.
-/

namespace ClipFeed.Text

def natural? (cs : List Char) : Option Nat :=
  if !cs.isEmpty && cs.all Char.isDigit then some (Nat.ofDigitChars 10 cs 0) else none

/-- The number that digits behind an optional sign denote. -/
def integer? : List Char → Option Int
  | '-' :: ds => (natural? ds).map fun n => -(n : Int)
  | '+' :: ds => (natural? ds).map fun n => (n : Int)
  | ds => (natural? ds).map fun n => (n : Int)

/-- The number that digits behind an optional plus denote. -/
def unsigned? : List Char → Option Nat
  | '+' :: ds => natural? ds
  | ds => natural? ds

def Fits64 (n : Int) : Prop :=
  Int64.minValue.toInt ≤ n ∧ n ≤ Int64.maxValue.toInt

instance (n : Int) : Decidable (Fits64 n) :=
  inferInstanceAs (Decidable (_ ∧ _))

def int64? (n : Int) : Option Int64 :=
  if Fits64 n then some (Int64.ofInt n) else none

def parseInt64? (s : String) : Option Int64 :=
  (integer? s.toList).bind int64?

private theorem fits64_toInt (n : Int64) : Fits64 n.toInt :=
  ⟨Int64.minValue_le_toInt n, Int64.toInt_le n⟩

theorem int64?_toInt (n : Int64) : int64? n.toInt = some n := by
  simp [int64?, fits64_toInt]

end ClipFeed.Text
