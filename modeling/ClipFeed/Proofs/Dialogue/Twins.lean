import ClipFeed.Proofs.Dialogue.Contract
/-!
Two runs side by side. Twins are dialogues that, answered from related states, end with related
outcomes in related states; what they ask on the way need not be the same.
-/

namespace ClipFeed

/-- Any question of one kind may be asked, and every answer is possible. -/
def Contract.only {Q : Type} {A : Q → Type} (ok : Q → Prop) : Contract Q A Unit where
  asks _ := ok
  hears _ _ _ := True
  write _ _ _ := ()

namespace Dialogue

variable {Q : Type} {A : Q → Type} {α β γ δ σ : Type} {ok : Q → Prop}

/-- Whether a dialogue only ever asks questions of one kind. -/
def Asks (ok : Q → Prop) (d : Dialogue Q A α) : Prop :=
  d.Meets (Contract.only ok) (fun _ _ => True) ()

theorem asks_done (a : α) : (done a : Dialogue Q A α).Asks ok := trivial

theorem asks_request {q : Q} (may : ok q) : (request q : Dialogue Q A (A q)).Asks ok :=
  ⟨may, fun _ _ => trivial⟩

theorem Asks.bind {d : Dialogue Q A α} {f : α → Dialogue Q A β} (first : d.Asks ok)
    (second : ∀ a, (f a).Asks ok) : (d >>= f).Asks ok :=
  Meets.bind first fun _ a _ => second a

theorem Asks.meets {τ : Type} {c : Contract Q A τ} (may : ∀ t q, ok q → c.asks t q)
    {d : Dialogue Q A α} (asks : d.Asks ok) (t : τ) : d.Meets c (fun _ _ => True) t := by
  induction d generalizing t with
  | done a => trivial
  | ask q next ih => exact ⟨may t q asks.1, fun a _ => ih a (asks.2 a trivial) _⟩

theorem Asks.keeps {answer : σ → (q : Q) → A q × σ} {p : σ → Prop}
    (each : ∀ s q, p s → ok q → p (answer s q).2) {d : Dialogue Q A α} (asks : d.Asks ok) {s : σ}
    (held : p s) : p (d.run answer s).2 := by
  obtain ⟨_, _, kept⟩ := Meets.run answer (fun _ => p)
    (fun _ s q held may => ⟨trivial, each s q held may⟩) held asks
  exact kept

theorem run_bind (answer : σ → (q : Q) → A q × σ) (d : Dialogue Q A α) (f : α → Dialogue Q A β)
    (s : σ) : (d >>= f).run answer s = (f (d.run answer s).1).run answer (d.run answer s).2 := by
  induction d generalizing s with
  | done a => rfl
  | ask q next ih => exact ih (answer s q).1 (answer s q).2

/-- Whether dialogues that begin in related states end with related outcomes in related states. -/
def Twins (first second : σ → (q : Q) → A q × σ) (before : σ → σ → Prop) (d : Dialogue Q A α)
    (e : Dialogue Q A β) (after : α → β → σ → σ → Prop) : Prop :=
  ∀ s t, before s t →
    after (d.run first s).1 (e.run second t).1 (d.run first s).2 (e.run second t).2

variable {first second : σ → (q : Q) → A q × σ} {before : σ → σ → Prop}

theorem Twins.bind {between : α → β → σ → σ → Prop} {after : γ → δ → σ → σ → Prop}
    {d : Dialogue Q A α} {e : Dialogue Q A β} {f : α → Dialogue Q A γ} {g : β → Dialogue Q A δ}
    (start : Twins first second before d e between)
    (rest : ∀ a b, Twins first second (between a b) (f a) (g b) after) :
    Twins first second before (d >>= f) (e >>= g) after := by
  intro s t related
  rw [run_bind, run_bind]
  exact rest _ _ _ _ (start s t related)

/-- A dialogue is its own twin if related states answer its questions alike. -/
theorem Asks.twins {related : σ → σ → Prop}
    (alike : ∀ s t q, related s t → ok q →
      (first s q).1 = (second t q).1 ∧ related (first s q).2 (second t q).2)
    {d : Dialogue Q A α} (asks : d.Asks ok) :
    Twins first second related d d fun a b s t => a = b ∧ related s t := by
  induction d with
  | done a => exact fun s t held => ⟨rfl, held⟩
  | ask q next ih =>
    intro s t held
    obtain ⟨same, kept⟩ := alike s t q held asks.1
    have rest := ih (first s q).1 (asks.2 _ trivial) _ _ kept
    simp only [run]
    rw [← same]
    exact rest

end Dialogue

end ClipFeed
