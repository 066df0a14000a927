import ClipFeed.Proofs.Dialogue.Twins
/-!
Transcripts: the questions of a dialogue with the answers that led to its outcome. A transcript
fixes its outcome, and what a dialogue promises holds of every transcript whose answers may be
counted on.
-/

namespace ClipFeed

def Contract.writeAll {Q : Type} {A : Q → Type} {τ : Type} (c : Contract Q A τ) (t : τ)
    (xs : List ((q : Q) × A q)) : τ :=
  xs.foldl (fun t x => c.write t x.1 x.2) t

/-- The contract under which everything may be asked and answered, and nothing is forgotten. -/
def Contract.minutes {Q : Type} {A : Q → Type} : Contract Q A (List ((q : Q) × A q)) where
  asks _ _ := True
  hears _ _ _ := True
  write t q a := t ++ [⟨q, a⟩]

@[simp] theorem Contract.minutes_writeAll {Q : Type} {A : Q → Type} (t xs : List ((q : Q) × A q)) :
    minutes.writeAll t xs = t ++ xs := by
  induction xs generalizing t with
  | nil => simp [writeAll]
  | cons x xs ih =>
    calc minutes.writeAll t (x :: xs)
      _ = minutes.writeAll (t ++ [x]) xs := rfl
      _ = t ++ [x] ++ xs := ih (t ++ [x])
      _ = t ++ x :: xs := by simp

namespace Dialogue

variable {Q : Type} {A : Q → Type} {τ α : Type}

/-- Whether a dialogue that is asked and answered this way ends with an outcome. -/
inductive Ends : Dialogue Q A α → List ((q : Q) × A q) → α → Prop where
  | done (a : α) : Ends (.done a) [] a
  | ask {q : Q} {next : A q → Dialogue Q A α} {a : A q} {xs : List ((q : Q) × A q)} {b : α}
      (rest : Ends (next a) xs b) : Ends (.ask q next) (⟨q, a⟩ :: xs) b

theorem ends_done_iff {a b : α} {xs : List ((q : Q) × A q)} :
    (done a : Dialogue Q A α).Ends xs b ↔ xs = [] ∧ b = a := by
  constructor
  · intro ended
    cases ended
    exact ⟨rfl, rfl⟩
  · intro ⟨nothing, same⟩
    rw [nothing, same]
    exact .done a

theorem ends_ask_iff {q : Q} {next : A q → Dialogue Q A α} {xs : List ((q : Q) × A q)} {b : α} :
    (ask q next).Ends xs b ↔ ∃ a ys, xs = ⟨q, a⟩ :: ys ∧ (next a).Ends ys b := by
  constructor
  · intro ended
    cases ended with
    | ask rest => exact ⟨_, _, rfl, rest⟩
  · intro ⟨a, ys, split, rest⟩
    rw [split]
    exact .ask rest

theorem ends_request_iff {q : Q} {xs : List ((q : Q) × A q)} {a : A q} :
    (request q : Dialogue Q A (A q)).Ends xs a ↔ xs = [⟨q, a⟩] := by
  constructor
  · intro ended
    obtain ⟨b, ys, rfl, rest⟩ := ends_ask_iff.mp ended
    obtain ⟨rfl, rfl⟩ := ends_done_iff.mp rest
    rfl
  · rintro rfl
    exact .ask (.done a)

/-- A transcript of a dialogue that goes on with another is one of the first and one of the
second. -/
theorem Ends.of_bind {β : Type} {d : Dialogue Q A α} {f : α → Dialogue Q A β}
    {zs : List ((q : Q) × A q)} {b : β} (ended : (d >>= f).Ends zs b) :
    ∃ xs a ys, d.Ends xs a ∧ (f a).Ends ys b ∧ zs = xs ++ ys := by
  induction d generalizing zs with
  | done a => exact ⟨[], a, zs, .done a, ended, rfl⟩
  | ask q next ih =>
    cases ended with
    | ask rest =>
      obtain ⟨xs, a, ys, first, second, rfl⟩ := ih _ rest
      exact ⟨_ :: xs, a, ys, .ask first, second, rfl⟩

theorem Ends.bind {β : Type} {d : Dialogue Q A α} {f : α → Dialogue Q A β}
    {xs ys : List ((q : Q) × A q)} {a : α} {b : β} (first : d.Ends xs a)
    (second : (f a).Ends ys b) : (d >>= f).Ends (xs ++ ys) b := by
  induction first with
  | done a => exact second
  | ask rest ih => exact .ask (ih second)

/-- The transcript of a dialogue that a state answers. -/
def transcript {σ : Type} (answer : σ → (q : Q) → A q × σ) :
    σ → Dialogue Q A α → List ((q : Q) × A q)
  | _, .done _ => []
  | s, .ask q next => ⟨q, (answer s q).1⟩ :: (next (answer s q).1).transcript answer (answer s q).2

theorem ends_transcript {σ : Type} (answer : σ → (q : Q) → A q × σ) (s : σ)
    (d : Dialogue Q A α) : d.Ends (d.transcript answer s) (d.run answer s).1 := by
  induction d generalizing s with
  | done a => exact .done a
  | ask q next ih => exact .ask (ih (answer s q).1 (answer s q).2)

theorem answered_of_mem_transcript {σ : Type} {answer : σ → (q : Q) → A q × σ} {s : σ}
    {d : Dialogue Q A α} {x : (q : Q) × A q} (member : x ∈ d.transcript answer s) :
    ∃ s, x.2 = (answer s x.1).1 := by
  induction d generalizing s with
  | done a => cases member
  | ask q next ih =>
    rcases List.mem_cons.mp member with rfl | later
    · exact ⟨s, rfl⟩
    · exact ih (answer s q).1 later

/-- What is promised holds at the end of every transcript with answers that may be counted on. -/
theorem Meets.of_ends {c : Contract Q A τ} {promised : τ → α → Prop} {t : τ} {d : Dialogue Q A α}
    (meets : d.Meets c promised t) (heard : ∀ t q a, c.hears t q a) {xs : List ((q : Q) × A q)}
    {a : α} (ended : d.Ends xs a) : promised (c.writeAll t xs) a := by
  induction ended generalizing t with
  | done a => exact meets
  | ask rest ih => exact ih (meets.2 _ (heard _ _ _))

/-- Every question in such a transcript may be asked after all that was heard before it. -/
theorem Meets.asks_of_ends {c : Contract Q A τ} {promised : τ → α → Prop} {t : τ}
    {d : Dialogue Q A α} (meets : d.Meets c promised t) (heard : ∀ t q a, c.hears t q a)
    {before after : List ((q : Q) × A q)} {x : (q : Q) × A q} {a : α}
    (ended : d.Ends (before ++ x :: after) a) : c.asks (c.writeAll t before) x.1 := by
  induction before generalizing d t with
  | nil =>
    cases ended
    exact meets.1
  | cons y before ih =>
    cases ended with
    | ask rest => exact ih (meets.2 _ (heard _ _ _)) rest

/-- Only questions of its kind are in a transcript of a dialogue that asks no others. -/
theorem Asks.of_ends {ok : Q → Prop} {d : Dialogue Q A α} (asks : d.Asks ok)
    {xs : List ((q : Q) × A q)} {a : α} (ended : d.Ends xs a) : ∀ x ∈ xs, ok x.1 := by
  induction ended with
  | done a => exact nofun
  | ask rest ih => exact List.forall_mem_cons.mpr ⟨asks.1, ih (asks.2 _ trivial)⟩

/-- A dialogue comes to its end by a transcript that its diary tells. -/
theorem Meets.ends {c : Contract Q A τ} {promised : τ → α → Prop} {t : τ} {d : Dialogue Q A α}
    (meets : d.Meets c promised t) :
    d.Meets c (fun t' a => promised t' a ∧ ∃ xs, d.Ends xs a ∧ t' = c.writeAll t xs) t := by
  induction d generalizing t with
  | done a => exact ⟨meets, [], .done a, rfl⟩
  | ask q next ih =>
    refine ⟨meets.1, ?_⟩
    intro a heard
    apply (ih a (meets.2 a heard)).imp
    rintro t' b ⟨kept, xs, ended, rfl⟩
    exact ⟨kept, ⟨q, a⟩ :: xs, .ask ended, rfl⟩

theorem meets_minutes (d : Dialogue Q A α) (t : List ((q : Q) × A q)) :
    d.Meets Contract.minutes (fun t' a => ∃ xs, d.Ends xs a ∧ t' = t ++ xs) t := by
  have free (d : Dialogue Q A α) (t : List ((q : Q) × A q)) :
      d.Meets Contract.minutes (fun _ _ => True) t := by
    induction d generalizing t with
    | done a => trivial
    | ask q next ih => exact ⟨trivial, fun a _ => ih a _⟩
  apply (free d t).ends.imp
  rintro _ a ⟨_, xs, ended, rfl⟩
  exact ⟨xs, ended, Contract.minutes_writeAll t xs⟩

end Dialogue

end ClipFeed
