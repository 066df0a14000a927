/-!
Dialogues: operations as data. A dialogue asks one question at a time and goes on with the answer,
so whoever answers decides what happens in between. Every dialogue ends.
-/

namespace ClipFeed

inductive Dialogue (Q : Type) (A : Q → Type) (α : Type) where
  | done (a : α)
  | ask (q : Q) (next : A q → Dialogue Q A α)

namespace Dialogue

variable {Q : Type} {A : Q → Type} {α β γ : Type}

def bind : Dialogue Q A α → (α → Dialogue Q A β) → Dialogue Q A β
  | .done a, f => f a
  | .ask q next, f => .ask q fun a => (next a).bind f

instance : Monad (Dialogue Q A) where
  pure := .done
  bind := bind

def request (q : Q) : Dialogue Q A (A q) :=
  .ask q .done

@[simp] theorem done_bind (a : α) (f : α → Dialogue Q A β) : (done a).bind f = f a := rfl

@[simp] theorem ask_bind (q : Q) (next : A q → Dialogue Q A α) (f : α → Dialogue Q A β) :
    (ask q next).bind f = .ask q fun a => (next a).bind f := rfl

theorem bind_done (d : Dialogue Q A α) : d.bind .done = d := by
  induction d with
  | done => rfl
  | ask q next ih => simp [ih]

theorem bind_assoc (d : Dialogue Q A α) (f : α → Dialogue Q A β) (g : β → Dialogue Q A γ) :
    (d.bind f).bind g = d.bind fun a => (f a).bind g := by
  induction d with
  | done => rfl
  | ask q next ih => simp [ih]

/-- The dialogue in which every question is replaced by a dialogue that finds its answer. -/
def refine {P : Type} {B : P → Type} (answer : (q : Q) → Dialogue P B (A q)) :
    Dialogue Q A α → Dialogue P B α
  | .done a => .done a
  | .ask q next => (answer q).bind fun a => (next a).refine answer

theorem refine_bind {P : Type} {B : P → Type} (answer : (q : Q) → Dialogue P B (A q))
    (d : Dialogue Q A α) (f : α → Dialogue Q A β) :
    (d.bind f).refine answer = (d.refine answer).bind fun a => (f a).refine answer := by
  induction d with
  | done a => rfl
  | ask q next ih => simp only [ask_bind, refine, ih, bind_assoc]

/-- The outcome when a state answers every question at once. -/
def run {σ : Type} (answer : σ → (q : Q) → A q × σ) : σ → Dialogue Q A α → α × σ
  | s, .done a => (a, s)
  | s, .ask q next => let (a, s) := answer s q; (next a).run answer s

/-- The outcome when a state answers questions at once, unless one of them is never answered. -/
def runWhile {σ : Type} (answer : σ → (q : Q) → Option (A q) × σ) :
    σ → Dialogue Q A α → Option α × σ
  | s, .done a => (some a, s)
  | s, .ask q next =>
    match answer s q with
    | (some a, s) => (next a).runWhile answer s
    | (none, s) => (none, s)

/-- The outcome with the questions that led to it, in the order in which they were asked. -/
def record {σ : Type} (answer : σ → (q : Q) → A q × σ) : σ → Dialogue Q A α → (α × List Q) × σ
  | s, .done a => ((a, []), s)
  | s, .ask q next =>
    let (a, s) := answer s q
    let ((b, asked), s) := (next a).record answer s
    ((b, q :: asked), s)

end Dialogue

end ClipFeed
