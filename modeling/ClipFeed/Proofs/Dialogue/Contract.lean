import ClipFeed.Dialogue
/-!
Contracts of dialogues. A contract says which questions may be asked, which answers may be counted
on and how a diary grows with them; a dialogue meets it when, on every such answer, it asks only
what it may and ends as promised. What a dialogue meets holds however its questions are answered.
-/

namespace ClipFeed

/-- What is agreed between a dialogue that keeps a diary and whoever answers it. -/
structure Contract (Q : Type) (A : Q → Type) (τ : Type) where
  asks : τ → Q → Prop
  hears : τ → (q : Q) → A q → Prop
  write : τ → (q : Q) → A q → τ

/-- A statement on diaries that no further entry undoes. -/
def Contract.Stable {Q : Type} {A : Q → Type} {τ : Type} (c : Contract Q A τ) (p : τ → Prop) :
    Prop :=
  ∀ t q a, p t → p (c.write t q a)

/-- The contract that has to be kept only where something else holds of the diary. -/
def Contract.assuming {Q : Type} {A : Q → Type} {τ : Type} (c : Contract Q A τ) (p : τ → Prop) :
    Contract Q A τ where
  asks t q := p t → c.asks t q
  hears := c.hears
  write := c.write

/-- The contracts of several parties as one. Its diaries tell whose contract is kept. -/
def Contract.each {Q : Type} {A : Q → Type} {τ κ : Type} (c : κ → Contract Q A τ) :
    Contract Q A (κ × τ) where
  asks t q := (c t.1).asks t.2 q
  hears t q a := (c t.1).hears t.2 q a
  write t q a := (t.1, (c t.1).write t.2 q a)

namespace Dialogue

variable {Q : Type} {A : Q → Type} {τ α β : Type}

/-- Whether a dialogue keeps to a contract and ends only with outcomes that are promised. -/
def Meets (c : Contract Q A τ) (promised : τ → α → Prop) : τ → Dialogue Q A α → Prop
  | t, .done a => promised t a
  | t, .ask q next => c.asks t q ∧ ∀ a, c.hears t q a → (next a).Meets c promised (c.write t q a)

/-- A dialogue that goes on with another meets what the second meets from wherever the first may
end. -/
theorem Meets.bind {c : Contract Q A τ} {p : τ → α → Prop} {promised : τ → β → Prop} {t : τ}
    {d : Dialogue Q A α} {f : α → Dialogue Q A β} (first : d.Meets c p t)
    (second : ∀ t a, p t a → (f a).Meets c promised t) : (d >>= f).Meets c promised t := by
  induction d generalizing t with
  | done a => exact second t a first
  | ask q next ih => exact ⟨first.1, fun a heard => ih a (first.2 a heard)⟩

theorem Meets.imp {c : Contract Q A τ} {first second : τ → α → Prop} {t : τ} {d : Dialogue Q A α}
    (meets : d.Meets c first t) (weaker : ∀ t a, first t a → second t a) :
    d.Meets c second t := by
  induction d generalizing t with
  | done a => exact weaker t a meets
  | ask q next ih => exact ⟨meets.1, fun a heard => ih a (meets.2 a heard)⟩

/-- A contract that allows more questions and counts on fewer answers is kept all the more. -/
theorem Meets.relax {c c' : Contract Q A τ} (asks : ∀ t q, c.asks t q → c'.asks t q)
    (hears : ∀ t q a, c'.hears t q a → c.hears t q a)
    (write : ∀ t q a, c.write t q a = c'.write t q a) {promised : τ → α → Prop} {t : τ}
    {d : Dialogue Q A α} (meets : d.Meets c promised t) : d.Meets c' promised t := by
  induction d generalizing t with
  | done a => exact meets
  | ask q next ih =>
    refine ⟨asks t q meets.1, fun a heard => ?_⟩
    rw [← write]
    exact ih a (meets.2 a (hears t q a heard))

/-- Whoever keeps to its own contract keeps to that of all. -/
theorem Meets.each {κ : Type} {c : κ → Contract Q A τ} {k : κ} {promised : τ → α → Prop} {t : τ}
    {d : Dialogue Q A α} (meets : d.Meets (c k) promised t) :
    d.Meets (Contract.each c) (fun t a => promised t.2 a) (k, t) := by
  induction d generalizing t with
  | done a => exact meets
  | ask q next ih => exact ⟨meets.1, fun a heard => ih a (meets.2 a heard)⟩

/-- Where something holds that no entry undoes, it may be assumed. -/
theorem Meets.of_assuming {c : Contract Q A τ} {p : τ → Prop} (stable : c.Stable p)
    {promised : τ → α → Prop} {t : τ} {d : Dialogue Q A α}
    (meets : d.Meets (c.assuming p) promised t) (held : p t) : d.Meets c promised t := by
  induction d generalizing t with
  | done a => exact meets
  | ask q next ih =>
    exact ⟨meets.1 held, fun a heard => ih a (meets.2 a heard) (stable t q a held)⟩

/-- A question that may be asked keeps what is stable. -/
theorem meets_request {c : Contract Q A τ} {p : τ → Prop} (stable : c.Stable p) {q : Q} {t : τ}
    (may : c.asks t q) (held : p t) :
    (request q : Dialogue Q A (A q)).Meets c (fun t _ => p t) t :=
  ⟨may, fun a _ => stable t q a held⟩

/-- Whoever gives only answers that may be counted on is left with a promised outcome. -/
theorem Meets.run {σ : Type} (answer : σ → (q : Q) → A q × σ) (holds : τ → σ → Prop)
    {c : Contract Q A τ} {promised : τ → α → Prop}
    (keeps : ∀ t s q, holds t s → c.asks t q →
      c.hears t q (answer s q).1 ∧ holds (c.write t q (answer s q).1) (answer s q).2)
    {t : τ} {s : σ} (start : holds t s) {d : Dialogue Q A α} (meets : d.Meets c promised t) :
    ∃ t', promised t' (d.run answer s).1 ∧ holds t' (d.run answer s).2 := by
  induction d generalizing t s with
  | done a => exact ⟨t, meets, start⟩
  | ask q next ih =>
    obtain ⟨heard, kept⟩ := keeps t s q start meets.1
    exact ih _ kept (meets.2 _ heard)

end Dialogue

end ClipFeed
