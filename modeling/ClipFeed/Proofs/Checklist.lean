/-!
Checks that are made one after another. What does not pass them is told for the first rule that
fails, and what passes them fails none.
-/

namespace ClipFeed

variable {κ ε α β : Type} {fails : κ → ε → Prop} {rules more : List κ} {x : Except ε α}

theorem bind_eq_ok_iff {f : α → Except ε β} {b : β} :
    x >>= f = .ok b ↔ ∃ a, x = .ok a ∧ f a = .ok b := by
  cases x <;> simp [bind, Except.bind]

/-- Whether an outcome tells of the first rule in a list that fails, if any of them does. -/
inductive Reports (fails : κ → ε → Prop) (rules : List κ) : Except ε α → Prop where
  | passed {a : α} (sound : ∀ rule ∈ rules, ∀ fault, ¬ fails rule fault) :
      Reports fails rules (.ok a)
  | refused {before behind : List κ} {rule : κ} {fault : ε}
      (split : rules = before ++ rule :: behind)
      (sound : ∀ earlier ∈ before, ∀ fault, ¬ fails earlier fault) (failed : fails rule fault) :
      Reports fails rules (.error fault)

namespace Reports

theorem single {rule : κ} (passes : ∀ a, x = .ok a → ∀ fault, ¬ fails rule fault)
    (refuses : ∀ fault, x = .error fault → fails rule fault) : Reports fails [rule] x := by
  cases x with
  | ok a =>
    apply Reports.passed
    intro other member
    obtain rfl := List.mem_singleton.mp member
    exact passes a rfl
  | error fault => exact .refused (List.nil_append _).symm nofun (refuses fault rfl)

/-- Checks that follow each other report the rules of both, those of the first in front. -/
theorem bind {f : α → Except ε β} (first : Reports fails rules x)
    (rest : ∀ a, x = .ok a → Reports fails more (f a)) :
    Reports fails (rules ++ more) (x >>= f) := by
  cases first with
  | @refused before behind rule fault split sound failed =>
    have longer : rules ++ more = before ++ rule :: (behind ++ more) := by
      rw [split, List.append_assoc, List.cons_append]
    exact .refused longer sound failed
  | @passed a sound =>
    change Reports fails (rules ++ more) (f a)
    have later := rest a rfl
    generalize f a = y at later
    cases later with
    | passed still => exact .passed (List.forall_mem_append.mpr ⟨sound, still⟩)
    | @refused before behind rule fault split still failed =>
      have longer : rules ++ more = (rules ++ before) ++ rule :: behind := by
        rw [split, List.append_assoc]
      exact .refused longer (List.forall_mem_append.mpr ⟨sound, still⟩) failed

theorem cons {rule : κ} {f : α → Except ε β} (first : Reports fails [rule] x)
    (rest : ∀ a, x = .ok a → Reports fails more (f a)) : Reports fails (rule :: more) (x >>= f) :=
  first.bind rest

/-- Checks are passed exactly where no rule fails. -/
theorem exists_ok_iff (reports : Reports fails rules x) :
    (∃ a, x = .ok a) ↔ ∀ rule ∈ rules, ∀ fault, ¬ fails rule fault := by
  cases reports with
  | @passed a sound => exact iff_of_true ⟨a, rfl⟩ sound
  | refused split sound failed =>
    refine iff_of_false nofun ?_
    intro none
    exact none _ (split ▸ List.mem_append_right _ List.mem_cons_self) _ failed

/-- A fault is that of the first rule that fails. -/
theorem exists_of_error {fault : ε} (reports : Reports fails rules (.error fault : Except ε α)) :
    ∃ before rule behind, rules = before ++ rule :: behind ∧
      (∀ earlier ∈ before, ∀ fault, ¬ fails earlier fault) ∧ fails rule fault := by
  cases reports with
  | refused split sound failed => exact ⟨_, _, _, split, sound, failed⟩

end Reports

end ClipFeed
