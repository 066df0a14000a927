import ClipFeed.Proofs.Redis.Mirror
/-!
Redis against the memory inside the process. Redis keeps what is stored for whole milliseconds, so
calls are answered alike where these are the times to live, and else until the first of them are
over.
-/

namespace ClipFeed.Redis

open Cache Text

/-- Calls, each with the time that passes before it. -/
abbrev Plan := List (Span × Call)

abbrev Client (σ : Type) := Span → σ → (call : Call) → Except Fault call.Answer × σ

namespace Client

variable {σ : Type}

def carryOut (client : Client σ) :
    Span → σ → Plan → List ((call : Call) × Except Fault call.Answer)
  | _, _, [] => []
  | now, x, (pause, call) :: plan =>
    let (a, x) := client (now + pause) x call
    ⟨call, a⟩ :: client.carryOut (now + pause) x plan

/-- Whether something holds whenever a call of a plan is made. -/
def Lasting (client : Client σ) (holds : Span → σ → Prop) : Span → σ → Plan → Prop
  | _, _, [] => True
  | now, x, (pause, call) :: plan => holds (now + pause) x ∧
    client.Lasting holds (now + pause) (client (now + pause) x call).2 plan

instance decidableLasting (client : Client σ) (holds : Span → σ → Prop)
    [∀ now x, Decidable (holds now x)] :
    (now : Span) → (x : σ) → (plan : Plan) → Decidable (client.Lasting holds now x plan)
  | _, _, [] => .isTrue trivial
  | now, x, (pause, call) :: plan =>
    have := decidableLasting client holds (now + pause) (client (now + pause) x call).2 plan
    inferInstanceAs (Decidable (holds (now + pause) x ∧ client.Lasting holds _ _ plan))

private theorem lasting_of_forall {client : Client σ} {holds : Span → σ → Prop}
    (always : ∀ now x, holds now x) (now : Span) (x : σ) (plan : Plan) :
    client.Lasting holds now x plan := by
  induction plan generalizing now x with
  | nil => trivial
  | cons step plan ih => exact ⟨always .., ih ..⟩

private theorem Lasting.imp {client : Client σ} {holds follows : Span → σ → Prop} {now : Span}
    {x : σ} {plan : Plan} (lasting : client.Lasting holds now x plan)
    (implies : ∀ now x, holds now x → follows now x) : client.Lasting follows now x plan := by
  induction plan generalizing now x with
  | nil => trivial
  | cons step plan ih => exact ⟨implies _ _ lasting.1, ih lasting.2⟩

/-- Calls over a server whose clock shows the time. -/
def served : Client Server := fun now s call =>
  (Session.perform call).run Server.perform (s.atTime now)

/-- The memory inside the process, which has no faults. -/
def inProcess : Client Memory := fun now m call =>
  let (a, m) := m.perform now call
  (.ok a, m)

/-- Whether nothing that a server stores has expired. -/
def AllDue (now : Span) (s : Server) : Prop :=
  ∀ v ∈ s.values, now < v.2.2

/-- Whether nothing that a memory keeps has expired. -/
def AllLive (now : Span) (m : Memory) : Prop :=
  ∀ x ∈ m.entries, now < x.2.expiresAt

instance (now : Span) (s : Server) : Decidable (AllDue now s) :=
  inferInstanceAs (Decidable (∀ v ∈ s.values, now < v.2.2))

instance (now : Span) (m : Memory) : Decidable (AllLive now m) :=
  inferInstanceAs (Decidable (∀ x ∈ m.entries, now < x.2.expiresAt))

variable {now : Span} {s : Server} {m : Memory} {plan : Plan}

/-- Over a server that mirrors a memory calls are answered as by the memory, as long as whenever one
is made the same is gone from both. -/
private theorem served_agrees {related : Span → Span → Prop} (willing : s.refusals = [])
    (mirrors : s.Mirrors related now m)
    (sent : ∀ step ∈ plan, ∀ ttl ∈ step.2.ttl?, 0 < ttl ∧
      ∀ now, related (now + .millis (Command.expiry ttl)) (now + ttl))
    (stays : served.Lasting (fun now s => ∀ v ∈ s.values, ∀ expiresAt,
      related v.2.2 expiresAt → (now < v.2.2 ↔ now < expiresAt)) now s plan) :
    served.carryOut now s plan = inProcess.carryOut now m plan := by
  induction plan generalizing now s m with
  | nil => rfl
  | cons step plan ih =>
    obtain ⟨pause, call⟩ := step
    obtain ⟨mine, others⟩ := List.forall_mem_cons.mp sent
    obtain ⟨here, later⟩ := stays
    have passed : (s.atTime (now + pause)).Mirrors related (now + pause) m :=
      mirrors.pass pause here
    obtain ⟨run, still⟩ :=
      Server.run_perform (s := s.atTime (now + pause)) (Session.perform call) willing
    obtain ⟨answered, left⟩ :=
      Server.Mirrors.perform (s := s.atTime (now + pause)) passed call fun ttl stored =>
        ⟨(mine ttl stored).1, (mine ttl stored).2 _⟩
    have same : served (now + pause) s call =
      (Session.perform call).run Server.execute (s.atTime (now + pause)) := run
    rw [same] at later
    simp only [carryOut, same, answered]
    exact congrArg (List.cons _) (ih still left others later)

end Client

open Client

end ClipFeed.Redis
