import ClipFeed.Proofs.Cache.Alike
import ClipFeed.Proofs.Cache.Gateway
import ClipFeed.Proofs.Dialogue.Transcript
/-!
Sessions: one caller after another over a memory and a store of feeds. Two sessions that see the
same clock and the same scans, but are told different likes and lock tokens, resolve keys alike.
-/

namespace ClipFeed.Feed

open Text Cache

/-- What two sessions have in common: the time of each question and the scans of a store. -/
structure Backdrop (φ : Type) where
  clock : Nat → Span
  scan : φ → (call : Store.Call) → Except Store.Fault call.Answer × φ

/-- What is told to one session alone: likes and lock tokens, by the number of the question. -/
structure Whim where
  liked : Nat → (account : Int64) → List Int64 → List Int64
  token : Nat → String

/-- The state that a session is in, with what it was told since the last request began. -/
structure Session (φ : Type) where
  asked : Nat
  cache : Memory
  stored : φ
  told : List Exchange

namespace Session

variable {φ : Type}

/-- The answer to a question, with the memory and the store behind it. -/
def respond (b : Backdrop φ) (w : Whim) (s : Session φ) : (q : Effect) → q.Answer × Memory × φ
  | .cache _ call =>
    let (a, cache) := s.cache.perform (b.clock s.asked) call
    (.answered a, cache, s.stored)
  | .store (.likedAmong account ids) => (.ok (w.liked s.asked account ids), s.cache, s.stored)
  | .store call =>
    let (a, stored) := b.scan s.stored call
    (a, s.cache, stored)
  | .lockToken => (w.token s.asked, s.cache, s.stored)
  | .requestId => (w.token s.asked, s.cache, s.stored)
  | .probe => (.ok (), s.cache, s.stored)
  | .sleep _ => ((), s.cache, s.stored)
  | .hold _ => ((), s.cache, s.stored)
  | .unhold => ((), s.cache, s.stored)
  | .count _ => ((), s.cache, s.stored)
  | .log _ => ((), s.cache, s.stored)
  | .note _ => ((), s.cache, s.stored)

def answer (b : Backdrop φ) (w : Whim) (s : Session φ) (q : Effect) : q.Answer × Session φ :=
  let (a, cache, stored) := s.respond b w q
  (a, ⟨s.asked + 1, cache, stored, s.told ++ [⟨q, a⟩]⟩)

private theorem told_run {α : Type} (b : Backdrop φ) (w : Whim) (s : Session φ) (d : Action α) :
    (d.run (answer b w) s).2.told = s.told ++ d.transcript (answer b w) s := by
  induction d generalizing s with
  | done a => exact (List.append_nil _).symm
  | ask q next ih =>
    rw [Dialogue.transcript, List.append_cons]
    exact ih (s.answer b w q).1 (s.answer b w q).2

theorem ends_told {α : Type} (b : Backdrop φ) (w : Whim) (s : Session φ) (d : Action α) :
    d.Ends (d.run (answer b w) { s with told := [] }).2.told
      (d.run (answer b w) { s with told := [] }).1 := by
  rw [told_run]
  exact Dialogue.ends_transcript (answer b w) { s with told := [] } d

/-- Sessions that differ only in what they were told, in tokens of locks and in the locks they hold
just now. -/
structure Twin (held : Option (Lock × Lock)) (s t : Session φ) : Prop where
  asked : s.asked = t.asked
  stored : s.stored = t.stored
  alike : s.cache.Alike t.cache
  locked : ∀ locks ∈ held, s.cache.Locked t.cache locks.1 locks.2

/-- Questions whose answers are the same in both sessions. -/
def Common : Effect → Prop
  | .cache _ call => ∃ key : Key, call.key = key.name
  | .store (.likedAmong ..) => False
  | .lockToken => False
  | .requestId => False
  | _ => True

variable {b : Backdrop φ} {v w : Whim} {held : Option (Lock × Lock)} {s t : Session φ}

theorem Twin.pass (twin : Twin held s t) (told told' : List Exchange) :
    Twin held ⟨s.asked + 1, s.cache, s.stored, told⟩ ⟨t.asked + 1, t.cache, t.stored, told'⟩ :=
  ⟨congrArg (· + 1) twin.asked, twin.stored, twin.alike, twin.locked⟩

theorem Twin.answer (twin : Twin held s t) {q : Effect} (common : Common q) :
    (s.answer b v q).1 = (t.answer b w q).1 ∧
      Twin held (s.answer b v q).2 (t.answer b w q).2 := by
  have step := congrArg (· + 1) twin.asked
  cases q with
  | cache limit call =>
    obtain ⟨key, named⟩ := common
    obtain ⟨same, alike⟩ := twin.alike.perform (b.clock s.asked) named
    simp only [Session.answer, respond, ← twin.asked, ← twin.stored]
    exact ⟨congrArg Reply.answered same, rfl, rfl, alike,
      fun locks holds => (twin.locked locks holds).perform _ named⟩
  | store call =>
    have scanned : b.scan s.stored call = b.scan t.stored call := by rw [twin.stored]
    cases call with
    | likedAmong => exact common.elim
    | _ =>
      simp only [Session.answer, respond, scanned]
      exact ⟨trivial, step, rfl, twin.alike, twin.locked⟩
  | lockToken => exact common.elim
  | requestId => exact common.elim
  | _ => exact ⟨rfl, twin.pass _ _⟩

/-- A dialogue of common questions ends the same way in both sessions. -/
theorem twins_of_asks {α : Type} {d : Action α} (asks : d.Asks Common) :
    d.Twins (answer b v) (answer b w) (Twin held) d fun x y s t => x = y ∧ Twin held s t :=
  asks.twins fun _ _ _ twin common => twin.answer common

private theorem twins_bind {α β γ : Type} {d : Action α} {f : α → Action β} {g : α → Action γ}
    {after : β → γ → Session φ → Session φ → Prop} (asks : d.Asks Common)
    (rest : ∀ a, (f a).Twins (answer b v) (answer b w) (Twin held) (g a) after) :
    (d >>= f).Twins (answer b v) (answer b w) (Twin held) (d >>= g) after :=
  (twins_of_asks asks).bind fun x y s t related => by
    obtain ⟨rfl, twin⟩ := related
    exact rest x s t twin

private theorem twins_pure {α : Type} (a : α) : (pure a : Action α).Twins (answer b v) (answer b w)
    (Twin held) (pure a) fun x y s t => x = y ∧ Twin held s t :=
  fun _ _ twin => ⟨rfl, twin⟩

section

variable {α ε : Type} (g : Gateway) (codec : Codec α) (key : Key)

theorem entries_common : Entries (Contract.only Common) key codec
    (fun _ (_ : Except ε α) => True) fun _ _ => True where
  plain := by
    intro t q plain
    cases q with
    | cache limit call =>
      cases call with
      | get name => exact ⟨key, plain⟩
      | _ => exact plain.elim
    | store => exact plain.elim
    | lockToken => exact plain.elim
    | requestId => exact plain.elim
    | _ => trivial
  hit _ _ _ _ _ _ := trivial
  fill _ _ _ _ _ _ _ := ⟨key, rfl⟩
  suffices_computed _ _ _ := trivial
  lasts _ _ _ _ _ := trivial
  lasts_computed _ _ _ _ _ := trivial

private theorem asks_read : (g.read codec key).Asks Common := by
  -- A lookup is part of every resolution, also of one whose computation fails at once.
  have computes (t : Unit) : (Dialogue.done (.error ()) : Action (Except Unit α)).Meets
      (Contract.only Common) (fun _ _ => True) t := trivial
  have outline := (entries_common codec key).outline g ⟨0, 0⟩ computes
  have here : Entries.At (Contract.only Common) key (fun _ (_ : Except Unit α) => True)
      (fun _ _ => True) (.looking (.late 0)) () := trivial
  exact (outline.meets_read here).imp fun _ _ _ => trivial

private theorem asks_count (metric : Metric) : (Action.count metric).Asks Common :=
  Dialogue.asks_request trivial

private theorem asks_lookup (more : List (String × Log.Datum)) (result : String) :
    (Gateway.lookup key more result).Asks Common :=
  Dialogue.asks_request trivial

private theorem run_tryLock (ttl : Span) {granted : Bool} {m : Memory}
    (found : s.cache.setIfAbsent (b.clock (s.asked + 1)) key.lockName (w.token s.asked) ttl =
      (granted, m)) : ∃ told, (g.tryLock key ttl).run (answer b w) s =
        if granted then
          (.acquired ⟨key.lockName, w.token s.asked⟩, ⟨s.asked + 3, m, s.stored, told⟩)
        else (.contended, ⟨s.asked + 2, m, s.stored, told⟩) := by
  refine ⟨((g.tryLock key ttl).run (answer b w) s).2.told, ?_⟩
  cases granted with
  | true =>
    simp [Gateway.tryLock, Gateway.guarded, Action.ask, Dialogue.request, bind, pure, Dialogue.run,
      answer, respond, Memory.perform, found]
  | false =>
    simp [Gateway.tryLock, Gateway.guarded, Action.ask, Dialogue.request, bind, pure, Dialogue.run,
      answer, respond, Memory.perform, found]

/-- Both sessions get the lock, each with a token of its own, or both find it taken. -/
theorem twins_tryLock (ttl : Span) :
    (g.tryLock key ttl).Twins (answer b v) (answer b w) (Twin none) (g.tryLock key ttl)
      fun o p s t => o = .contended ∧ p = .contended ∧ Twin none s t ∨
        ∃ mine other, o = .acquired mine ∧ p = .acquired other ∧ Twin (some (mine, other)) s t := by
  intro s t twin
  have step (n : Nat) : s.asked + n = t.asked + n := congrArg (· + n) twin.asked
  have time : b.clock (s.asked + 1) = b.clock (t.asked + 1) := congrArg b.clock (step 1)
  rcases twin.alike.setIfAbsent (b.clock (s.asked + 1)) key (v.token s.asked) (w.token t.asked) ttl
    with ⟨first, second⟩ | ⟨m₁, m₂, first, second, alike, locked⟩
  · rw [time] at second
    obtain ⟨told, here⟩ := run_tryLock g key ttl first
    obtain ⟨told', there⟩ := run_tryLock g key ttl second
    rw [here, there]
    exact .inl ⟨rfl, rfl, step 2, twin.stored, twin.alike, twin.locked⟩
  · rw [time] at second
    obtain ⟨told, here⟩ := run_tryLock g key ttl first
    obtain ⟨told', there⟩ := run_tryLock g key ttl second
    rw [here, there]
    refine .inr ⟨_, _, rfl, rfl, step 3, twin.stored, alike, ?_⟩
    intro locks holds
    obtain rfl := Option.some.inj holds
    exact locked

theorem run_release (b : Backdrop φ) (w : Whim) (s : Session φ) (lock : Lock) :
    let given := s.cache.deleteIfEquals (b.clock (s.asked + 1)) lock.key lock.token
    ∃ told, (g.release lock).run (answer b w) s =
      ((), ⟨s.asked + if given.1 then 2 else 3, given.2, s.stored, told⟩) := by
  intro given
  refine ⟨((g.release lock).run (answer b w) s).2.told, ?_⟩
  cases found : given.1 with
  | true =>
    simp [Gateway.release, Gateway.releaseLock, Gateway.guarded, Action.ask, Dialogue.request, bind,
      pure, Dialogue.run, answer, respond, Memory.perform, given, found]
  | false =>
    simp [Gateway.release, Gateway.releaseLock, Gateway.guarded, Action.ask, Action.log,
      Dialogue.request, bind, pure, Dialogue.run, answer, respond, Memory.perform, given, found]

private theorem twins_release (mine other : Lock) :
    (g.release mine).Twins (answer b v) (answer b w) (Twin (some (mine, other))) (g.release other)
      fun _ _ s t => Twin none s t := by
  intro s t twin
  obtain ⟨same, alike⟩ := twin.alike.deleteIfEquals (b.clock (s.asked + 1)) (twin.locked _ rfl)
  obtain ⟨told, here⟩ := run_release g b v s mine
  obtain ⟨told', there⟩ := run_release g b w t other
  rw [here, there, ← twin.asked, same]
  exact ⟨rfl, twin.stored, alike, nofun⟩

variable (policy : Policy) {compute : Action (Except ε α)}

private theorem twins_underLock (asks : compute.Asks Common) (mine other : Lock) :
    (g.underLock codec key policy compute mine).Twins (answer b v) (answer b w)
      (Twin (some (mine, other))) (g.underLock codec key policy compute other)
      fun o p s t => o = p ∧ Twin none s t := by
  refine twins_bind (asks_count _) fun _ => ?_
  refine twins_bind (asks_read g codec key) fun found => ?_
  have ended (o : Except ε α) : (do g.release mine; return o : Action (Except ε α)).Twins
      (answer b v) (answer b w) (Twin (some (mine, other))) (do g.release other; return o)
      fun o p s t => o = p ∧ Twin none s t :=
    (twins_release g mine other).bind fun _ _ => twins_pure o
  cases found with
  | none =>
    refine twins_bind ?_ ended
    have outline := (entries_common codec key).outline g policy fun _ => asks
    exact outline.meets_computeAndFill .behind nofun trivial
  | some value =>
    refine twins_bind (asks_count _) fun _ => ?_
    exact twins_bind (asks_lookup key _ _) fun _ => ended (.ok value)

/-- Both sessions resolve a key to the same outcome and keep the same entries. -/
theorem twins_resolve (asks : compute.Asks Common) :
    (g.resolve codec key policy compute).Twins (answer b v) (answer b w) (Twin none)
      (g.resolve codec key policy compute) fun o p s t => o = p ∧ Twin none s t := by
  refine twins_bind (asks_read g codec key) fun found => ?_
  cases found with
  | some value =>
    refine twins_bind (asks_count _) fun _ => ?_
    exact twins_bind (asks_lookup key _ _) fun _ => twins_pure _
  | none =>
    refine twins_bind (asks_count _) fun _ => ?_
    refine twins_bind (asks_lookup key _ _) fun _ => ?_
    refine (twins_tryLock g key policy.lockTtl).bind fun o p s t attempts => ?_
    rcases attempts with ⟨rfl, rfl, twin⟩ | ⟨mine, other, rfl, rfl, twin⟩
    · have outline := (entries_common codec key).outline g policy fun _ => asks
      have waits : (g.behindLock codec key policy compute).Asks Common :=
        outline.meets_behindLock trivial
      exact twins_of_asks waits s t twin
    · exact twins_underLock g codec key policy asks mine other s t twin

end

end Session

end ClipFeed.Feed
