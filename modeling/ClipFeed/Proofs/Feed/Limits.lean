import ClipFeed.Feed.Limits
/-!
Page sizes that are granted: between one and the maximum, whatever is requested.
-/

namespace ClipFeed.Feed.Limits

variable {l : Limits}

def Sound (l : Limits) : Prop :=
  1 ≤ l.default ∧ l.default ≤ l.max

instance (l : Limits) : Decidable l.Sound :=
  inferInstanceAs (Decidable (_ ∧ _))

theorem one_le_of_ne_zero {n : UInt32} (nonzero : n ≠ 0) : 1 ≤ n := by
  have positive : n.toNat ≠ (0 : UInt32).toNat := mt UInt32.toNat_inj.mp nonzero
  exact UInt32.le_iff_toNat_le.mpr (Nat.one_le_iff_ne_zero.mpr positive)

theorem clamp_of_le {n : UInt32} (positive : 1 ≤ n) (below : n ≤ l.max) :
    l.clamp (some n) = n := by
  simp [clamp, positive, below]

theorem clamp_of_not_le {n : UInt32} (unusable : ¬ (1 ≤ n ∧ n ≤ l.max)) :
    l.clamp (some n) = l.default := by
  simpa [clamp] using fun positive below => absurd ⟨positive, below⟩ unusable

theorem Sound.clamp (sound : l.Sound) (requested : Option UInt32) :
    1 ≤ l.clamp requested ∧ l.clamp requested ≤ l.max := by
  cases requested with
  | none => exact sound
  | some n =>
    by_cases usable : 1 ≤ n ∧ n ≤ l.max
    · rwa [clamp_of_le usable.1 usable.2]
    · rwa [clamp_of_not_le usable]

end ClipFeed.Feed.Limits
