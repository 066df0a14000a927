import ClipFeed.Proofs.Dialogue.Contract
import Mathlib.Logic.Function.Basic
import Mathlib.Logic.Relation
/-!
Pools of dialogues that go on at the same time. In a step one caller's question is answered, or the
surroundings change on their own; which caller is next is never fixed. If every caller meets its
contract and the surroundings keep an invariant that makes the expected answers true, then both hold
in every pool that can be reached.
-/

namespace ClipFeed

/-- How callers are answered from a state that they share. -/
structure Surroundings (ι Q : Type) (A : Q → Type) (σ : Type) where
  /-- Whether a question of a caller may be answered this way, and what that makes of the state. -/
  answers : σ → ι → (q : Q) → A q → σ → Prop
  /-- Whether the state may change while no question is answered. -/
  drifts : σ → σ → Prop

/-- The shared state with what is left of every caller's dialogue. -/
structure Pool (ι Q : Type) (A : Q → Type) (α : ι → Type) (σ : Type) where
  shared : σ
  callers : (i : ι) → Dialogue Q A (α i)

namespace Pool

variable {ι Q : Type} {A : Q → Type} {α : ι → Type} {σ τ : Type} [DecidableEq ι]

inductive Step (e : Surroundings ι Q A σ) : Pool ι Q A α σ → Pool ι Q A α σ → Prop where
  | answer {s s' : σ} {callers : (i : ι) → Dialogue Q A (α i)} (i : ι) {q : Q}
      {next : A q → Dialogue Q A (α i)} (asking : callers i = .ask q next) (a : A q)
      (heard : e.answers s i q a s') :
      Step e ⟨s, callers⟩ ⟨s', Function.update callers i (next a)⟩
  | drift {s s' : σ} {callers : (i : ι) → Dialogue Q A (α i)} (moved : e.drifts s s') :
      Step e ⟨s, callers⟩ ⟨s', callers⟩

def Reaches (e : Surroundings ι Q A σ) : Pool ι Q A α σ → Pool ι Q A α σ → Prop :=
  Relation.ReflTransGen (Step e)

/-- What surroundings have to keep so that contracts can be relied on. Every caller reads its diary
off the shared state. -/
structure Keeps (e : Surroundings ι Q A σ) (c : Contract Q A τ) (diary : σ → ι → τ)
    (holds : σ → Prop) : Prop where
  answer : ∀ {s s' : σ} {i : ι} {q : Q} {a : A q}, holds s → c.asks (diary s i) q →
    e.answers s i q a s' → c.hears (diary s i) q a ∧ holds s' ∧
      diary s' i = c.write (diary s i) q a ∧ ∀ j, j ≠ i → diary s' j = diary s j
  drift : ∀ {s s' : σ}, holds s → e.drifts s s' → holds s' ∧ ∀ i, diary s' i = diary s i

/-- A pool in which the invariant holds and every caller meets the contract from its diary. -/
def Sound (c : Contract Q A τ) (diary : σ → ι → τ) (holds : σ → Prop)
    (promised : (i : ι) → τ → α i → Prop) (p : Pool ι Q A α σ) : Prop :=
  holds p.shared ∧ ∀ i, (p.callers i).Meets c (promised i) (diary p.shared i)

/-- A caller that is answered alone, by answers that the surroundings may give, comes to its end. -/
theorem reaches_alone {e : Surroundings ι Q A σ} {answer : σ → (q : Q) → A q × σ} {i : ι}
    (may : ∀ s q, e.answers s i q (answer s q).1 (answer s q).2) (p : Pool ι Q A α σ) :
    ∃ p', Reaches e p p' ∧ p'.shared = ((p.callers i).run answer p.shared).2 ∧
      p'.callers i = .done ((p.callers i).run answer p.shared).1 ∧
      ∀ j, j ≠ i → p'.callers j = p.callers j := by
  obtain ⟨s, callers⟩ := p
  simp only
  generalize rest : callers i = d
  induction d generalizing s callers with
  | done a => exact ⟨⟨s, callers⟩, .refl, rfl, rest, fun _ _ => rfl⟩
  | ask q next ih =>
    have first := Step.answer i rest (answer s q).1 (may s q)
    obtain ⟨p', later, shared, ended, others⟩ := ih (answer s q).1 (answer s q).2
      (Function.update callers i (next (answer s q).1)) (Function.update_self ..)
    refine ⟨p', .head first later, shared, ended, ?_⟩
    intro j other
    rw [others j other]
    exact Function.update_of_ne other ..

/-- The pool behind all the answers to a caller that is answered alone. -/
def settle (answer : σ → (q : Q) → A q × σ) (i : ι) (p : Pool ι Q A α σ) : Pool ι Q A α σ :=
  let reply := (p.callers i).run answer p.shared
  ⟨reply.2, Function.update p.callers i (.done reply.1)⟩

theorem callers_settle (answer : σ → (q : Q) → A q × σ) (i : ι) (p : Pool ι Q A α σ) :
    (p.settle answer i).callers i = .done ((p.callers i).run answer p.shared).1 :=
  Function.update_self ..

theorem callers_settle_of_ne (answer : σ → (q : Q) → A q × σ) {i j : ι} (other : j ≠ i)
    (p : Pool ι Q A α σ) : (p.settle answer i).callers j = p.callers j :=
  Function.update_of_ne other ..

theorem reaches_settle {e : Surroundings ι Q A σ} {answer : σ → (q : Q) → A q × σ} {i : ι}
    (may : ∀ s q, e.answers s i q (answer s q).1 (answer s q).2) (p : Pool ι Q A α σ) :
    Reaches e p (p.settle answer i) := by
  obtain ⟨⟨s, callers⟩, reached, rfl, ended, others⟩ := reaches_alone may p
  have same : callers = (p.settle answer i).callers := by
    funext j
    by_cases other : j = i
    · subst other
      rw [callers_settle]
      exact ended
    · rw [callers_settle_of_ne answer other]
      exact others j other
  subst same
  exact reached

omit [DecidableEq ι] in
def outcome? (p : Pool ι Q A α σ) (i : ι) : Option (α i) :=
  match p.callers i with
  | .done a => some a
  | .ask .. => none

omit [DecidableEq ι] in
theorem outcome?_eq_some {p : Pool ι Q A α σ} {i : ι} {a : α i} :
    p.outcome? i = some a ↔ p.callers i = .done a := by
  unfold outcome?
  split
  · next b ended => simp [ended]
  · next asking => simp [asking]

omit [DecidableEq ι] in
def question? (p : Pool ι Q A α σ) (i : ι) : Option Q :=
  match p.callers i with
  | .done _ => none
  | .ask q _ => some q

omit [DecidableEq ι] in
theorem question?_eq_some {p : Pool ι Q A α σ} {i : ι} {q : Q} :
    p.question? i = some q ↔ ∃ next, p.callers i = .ask q next := by
  unfold question?
  split
  · next ended => simp [ended]
  · next other next asking =>
    rw [asking]
    constructor
    · rintro ⟨⟩
      exact ⟨next, rfl⟩
    · rintro ⟨_, ⟨⟩⟩
      rfl

def play (answer : σ → ι → (q : Q) → A q × σ) (i : ι) (p : Pool ι Q A α σ) : Pool ι Q A α σ :=
  match p.callers i with
  | .done _ => p
  | .ask q next =>
    let (a, s) := answer p.shared i q
    ⟨s, Function.update p.callers i (next a)⟩

theorem reaches_play {e : Surroundings ι Q A σ} {answer : σ → ι → (q : Q) → A q × σ} {i : ι}
    {p : Pool ι Q A α σ}
    (may : ∀ q, e.answers p.shared i q (answer p.shared i q).1 (answer p.shared i q).2) :
    Reaches e p (p.play answer i) := by
  obtain ⟨s, callers⟩ := p
  unfold play
  simp only
  split
  · exact .refl
  · next q next asking => exact .single (.answer i asking _ (may q))

variable {e : Surroundings ι Q A σ} {c : Contract Q A τ} {diary : σ → ι → τ} {holds : σ → Prop}
  {promised : (i : ι) → τ → α i → Prop}

theorem Sound.step (keeps : Keeps e c diary holds) {p p' : Pool ι Q A α σ}
    (sound : p.Sound c diary holds promised) (step : Step e p p') :
    p'.Sound c diary holds promised := by
  obtain ⟨held, meets⟩ := sound
  cases step with
  | @answer s s' callers i q next asking a heard =>
    have asker := meets i
    simp only [asking] at asker
    obtain ⟨expected, kept, own, others⟩ := keeps.answer held asker.1 heard
    refine ⟨kept, ?_⟩
    intro j
    by_cases same : j = i
    · subst same
      simp only [Function.update_self, own]
      exact asker.2 a expected
    · simp only [Function.update_of_ne same, others j same]
      exact meets j
  | drift moved =>
    obtain ⟨kept, same⟩ := keeps.drift held moved
    exact ⟨kept, fun i => by rw [same i]; exact meets i⟩

/-- Every pool that a sound one reaches is sound. -/
theorem Sound.reaches (keeps : Keeps e c diary holds) {p p' : Pool ι Q A α σ}
    (sound : p.Sound c diary holds promised) (reached : Reaches e p p') :
    p'.Sound c diary holds promised := by
  induction reached with
  | refl => exact sound
  | tail _ step ih => exact ih.step keeps step

omit [DecidableEq ι] in
/-- A caller that is done in a sound pool has a promised outcome. -/
theorem Sound.outcome {p : Pool ι Q A α σ} (sound : p.Sound c diary holds promised) {i : ι}
    {a : α i} (ended : p.callers i = .done a) : promised i (diary p.shared i) a := by
  have meets := sound.2 i
  rw [ended] at meets
  exact meets

end Pool

end ClipFeed
