import ClipFeed.Proofs.Dialogue.Contract
/-!
Dialogues that may be dropped. Whoever is asked may give no answer at all; what is left then is up
to what the dialogue kept by that time.
-/

namespace ClipFeed

namespace Dialogue

variable {Q : Type} {A : Q → Type} {α κ : Type}

/-- The dialogue that goes on with what it leaves once it is dropped. -/
def droppable (keep : κ → Q → κ) (leave : κ → Dialogue Q (fun q => Option (A q)) (Option α)) :
    κ → Dialogue Q A α → Dialogue Q (fun q => Option (A q)) (Option α)
  | _, .done a => .done (some a)
  | k, .ask q next => .ask q fun
    | some a => (next a).droppable keep leave (keep k q)
    | none => leave (keep k q)

/-- The dialogue that leaves nothing behind. -/
def steady : Dialogue Q A α → Dialogue Q (fun q => Option (A q)) (Option α) :=
  droppable (fun _ _ => ()) (fun _ => .done none) ()

end Dialogue

variable {Q : Type} {A : Q → Type} {τ α κ : Type}

def Contract.without (c : Contract Q A τ) (drops : Q → Prop) : Contract Q A τ :=
  { c with asks := fun t q => c.asks t q ∧ ¬ drops q }

/-- The contract with somebody who may drop the dialogue at some questions. -/
def Contract.withDrops (c : Contract Q A τ) (drops : Q → Prop) (dropped : τ → τ) :
    Contract Q (fun q => Option (A q)) τ where
  asks := c.asks
  hears
    | t, q, some a => c.hears t q a
    | _, q, none => drops q
  write
    | t, q, some a => c.write t q a
    | t, _, none => dropped t

namespace Dialogue

variable {c : Contract Q A τ} {drops : Q → Prop} {dropped : τ → τ} {promised : τ → α → Prop}
  {left : τ → Option α → Prop} {t : τ} {d : Dialogue Q A α}

/-- A dialogue may be dropped if what it leaves then meets the contract. -/
theorem Meets.droppable {keep : κ → Q → κ}
    {leave : κ → Dialogue Q (fun q => Option (A q)) (Option α)} (kept : τ → κ)
    (keeps : ∀ t q a, kept (c.write t q a) = keep (kept t) q)
    (leaves : ∀ t q, c.asks t q → drops q →
      (leave (keep (kept t) q)).Meets (c.withDrops drops dropped) left (dropped t))
    (ends : ∀ t a, promised t a → left t (some a)) (meets : d.Meets c promised t) :
    (d.droppable keep leave (kept t)).Meets (c.withDrops drops dropped) left t := by
  induction d generalizing t with
  | done a => exact ends t a meets
  | ask q next ih =>
    rw [Dialogue.droppable]
    refine ⟨meets.1, ?_⟩
    rintro (_ | a) heard
    · exact leaves t q meets.1 heard
    · have rest := ih a (meets.2 a heard)
      rw [keeps] at rest
      exact rest

theorem Meets.steady (ends : ∀ t a, promised t a → left t (some a))
    (meets : d.Meets (c.without drops) promised t) :
    d.steady.Meets (c.withDrops drops dropped) left t := by
  induction d generalizing t with
  | done a => exact ends t a meets
  | ask q next ih =>
    obtain ⟨⟨asked, undropped⟩, rest⟩ := meets
    rw [Dialogue.steady, Dialogue.droppable]
    refine ⟨asked, ?_⟩
    rintro (_ | a) heard
    · exact absurd heard undropped
    · exact ih a (rest a heard)

end Dialogue

end ClipFeed
