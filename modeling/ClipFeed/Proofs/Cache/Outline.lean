import ClipFeed.Cache.Gateway
import ClipFeed.Proofs.Dialogue.Contract
/-!
The outline of a resolution: its points, and what leads from one to the next. Whoever says what
holds at every point, and shows it for one question at a time, knows what holds at the end, whatever
the answers were.
-/

namespace ClipFeed.Cache

open Text

/-- What a lookup shows. Bytes that cannot be read count as a fault. -/
inductive Sighting (α : Type) where
  | value (v : α)
  | nothing
  | fault

def Codec.sight {α : Type} (codec : Codec α) : Reply (Option Bytes) → Sighting α
  | .answered none => .nothing
  | .answered (some bs) =>
    match codec.decode bs with
    | .ok v => .value v
    | .error _ => .fault
  | .failed _ => .fault
  | .silent => .fault

theorem Codec.sight_eq_value {α : Type} {codec : Codec α} {r : Reply (Option Bytes)} {v : α} :
    codec.sight r = .value v ↔ ∃ bs, r = .answered (some bs) ∧ codec.decode bs = .ok v := by
  rcases r with (_ | bs) | fault | _
  · simp [Codec.sight]
  · simp only [Codec.sight]
    cases decoded : codec.decode bs <;> simp [decoded]
  · simp [Codec.sight]
  · simp [Codec.sight]

/-- The lookups of a resolution: the first, the one under the lock, and those behind it with the
number of lookups that are left after them. -/
inductive Look where
  | first
  | again (lock : Lock)
  | late (left : Nat)

/-- Where a computation takes place: under the lock, behind the lock of another caller, or apart
from the cache. -/
inductive Place where
  | under (lock : Lock)
  | behind
  | apart

def Look.lock? : Look → Option Lock
  | .first => none
  | .again lock => some lock
  | .late _ => none

def Place.lock? : Place → Option Lock
  | .under lock => some lock
  | .behind => none
  | .apart => none

/-- The points of a resolution. -/
inductive Point (α ε : Type) where
  | looking (look : Look)
  | missed
  | drawn (token : String)
  | granted (lock : Lock)
  | polling (left : Nat)
  | ready (place : Place)
  | worked (place : Place) (o : Except ε α)
  | closing (lock : Lock) (o : Except ε α)
  | yielded (lock : Lock) (o : Except ε α)
  | ended (o : Except ε α)
  /-- A metric is to be counted first. -/
  | counting (metric : Metric) (next : Point α ε)
  /-- An event is to be logged first. -/
  | noting (next : Point α ε)

namespace Look

variable {α ε : Type}

def hit : Look → α → Point α ε
  | .first, v => .counting .hit (.noting (.ended (.ok v)))
  | .again lock, v => .counting .hit (.noting (.closing lock (.ok v)))
  | .late _, v => .counting .hit (.noting (.ended (.ok v)))

def miss : Look → Point α ε
  | .first => .counting .miss (.noting .missed)
  | .again lock => .ready (.under lock)
  | .late left => .polling left

def next (look : Look) : Sighting α → Point α ε
  | .value v => look.hit v
  | .nothing => look.miss
  | .fault => .counting .error (.noting look.miss)

end Look

namespace Point

variable {α ε β : Type}

/-- The point behind a reply of which only the fault counts. -/
def past (p : Point α ε) : Reply β → Point α ε
  | .answered _ => p
  | .failed _ => .counting .error (.noting p)
  | .silent => .counting .error (.noting p)

def attempted (polls : Nat) (lock : Lock) : Reply Bool → Point α ε
  | .answered true => .granted lock
  | .answered false => .counting .lockContended (.polling polls)
  | .failed _ => .counting .error (.noting (.counting .fallback (.ready .apart)))
  | .silent => .counting .error (.noting (.counting .fallback (.ready .apart)))

def released (o : Except ε α) : Reply Bool → Point α ε
  | .answered true => .ended o
  | .answered false => .noting (.ended o)
  | .failed _ => .counting .error (.noting (.ended o))
  | .silent => .counting .error (.noting (.ended o))

end Point

/-- The point behind a computation whose value is stored, if it is to be. -/
def Place.after {α ε : Type} : Place → Except ε α → Point α ε
  | .under lock, o => .closing lock o
  | .behind, o => .ended o
  | .apart, o => .ended o

/-- What holds at every point of a resolution, with one obligation for each way to go on. -/
structure Outline {τ α ε : Type} (c : Contract Effect Effect.Answer τ) (g : Gateway)
    (codec : Codec α) (key : Key) (policy : Policy) (compute : Action (Except ε α))
    (holds : Point α ε → τ → Prop) : Prop where
  log : ∀ {p t} event, holds (.noting p) t →
    (Action.log event).Meets c (fun t _ => holds p t) t
  count : ∀ {metric p t}, holds (.counting metric p) t →
    (Action.count metric).Meets c (fun t _ => holds p t) t
  look : ∀ {look t}, holds (.looking look) t →
    (Action.ask (.cache g.opTimeout (.get key.name))).Meets c
      (fun t reply => holds (look.next (codec.sight reply)) t) t
  draw : ∀ {t}, holds .missed t →
    (Action.ask .lockToken).Meets c (fun t token => holds (.drawn token) t) t
  lock : ∀ {token t}, holds (.drawn token) t →
    (Action.ask (.cache g.opTimeout (.setIfAbsent key.lockName token policy.lockTtl))).Meets c
      (fun t reply => holds (.attempted g.pollAttempts ⟨key.lockName, token⟩ reply) t) t
  hold : ∀ {lock t}, holds (.granted lock) t → (Action.ask (.hold lock)).Meets c
    (fun t _ => holds (.counting .lockAcquired (.looking (.again lock))) t) t
  sleep : ∀ {left t}, holds (.polling (left + 1)) t →
    (Action.sleep g.pollInterval).Meets c (fun t _ => holds (.looking (.late left)) t) t
  giveUp : ∀ {t}, holds (.polling 0) t → holds (.counting .fallback (.noting (.ready .behind))) t
  compute : ∀ {place t}, holds (.ready place) t →
    compute.Meets c (fun t o => holds (.counting .compute (.worked place o)) t) t
  fill : ∀ {place v bs t}, place ≠ .apart → holds (.worked place (.ok v)) t →
    codec.encode v = .ok bs →
    (Action.ask (.cache g.opTimeout (.set key.name bs policy.ttl))).Meets c
      (fun t reply => holds ((place.after (.ok v)).past reply) t) t
  unwritten : ∀ {place v reason t}, place ≠ .apart → holds (.worked place (.ok v)) t →
    codec.encode v = .error reason → holds (.counting .error (.noting (place.after (.ok v)))) t
  failed : ∀ {place failure t}, holds (.worked place (.error failure)) t →
    holds (place.after (.error failure)) t
  leave : ∀ {o t}, holds (.worked .apart o) t → holds (.ended o) t
  unhold : ∀ {lock o t}, holds (.closing lock o) t →
    (Action.ask .unhold).Meets c (fun t _ => holds (.yielded lock o) t) t
  release : ∀ {lock o t}, holds (.yielded lock o) t →
    (Action.ask (.cache g.opTimeout (.deleteIfEquals lock.key lock.token))).Meets c
      (fun t reply => holds (.released o reply) t) t

def Reply.settle {β : Type} (operation : String) : Reply β → Except Fault β
  | .answered b => .ok b
  | .failed fault => .error fault
  | .silent => .error (.timeout operation)

theorem Gateway.meets_guarded_reply {τ : Type} {c : Contract Effect Effect.Answer τ} {g : Gateway}
    {call : Call} {told : τ → Reply call.Answer → Prop} {t : τ}
    (asked : (Action.ask (.cache g.opTimeout call)).Meets c told t) :
    (g.guarded call).Meets c
      (fun t r => ∃ reply, told t reply ∧ r = reply.settle call.operation) t := by
  apply Dialogue.Meets.bind asked
  intro t reply known
  cases reply with
  | answered b => exact ⟨_, known, rfl⟩
  | failed fault => exact ⟨_, known, rfl⟩
  | silent => exact ⟨_, known, rfl⟩

namespace Outline

variable {τ α ε : Type} {c : Contract Effect Effect.Answer τ} {g : Gateway} {codec : Codec α}
  {key : Key} {policy : Policy} {compute : Action (Except ε α)} {holds : Point α ε → τ → Prop}
  {t : τ}

theorem meets_noteFault (outline : Outline c g codec key policy compute holds) {p : Point α ε}
    (here : holds (.counting .error (.noting p)) t) (operation : String) (fault : Fault) :
    (Gateway.noteFault key operation fault).Meets c (fun t _ => holds p t) t :=
  (outline.count here).bind fun _ _ counted => outline.log _ counted

theorem meets_hit (outline : Outline c g codec key policy compute holds) {p : Point α ε}
    (here : holds (.counting .hit (.noting p)) t) (more : List (String × Log.Datum))
    (result : String)
    {β : Type} {rest : Action β} {between : τ → β → Prop}
    (goes : ∀ t, holds p t → rest.Meets c between t) :
    (do Action.count .hit; Gateway.lookup key more result; rest : Action β).Meets c between t :=
  (outline.count here).bind fun _ _ counted =>
    (outline.log _ counted).bind fun t _ noted => goes t noted

theorem meets_read (outline : Outline c g codec key policy compute holds) {look : Look}
    (here : holds (.looking look) t) : (g.read codec key).Meets c
      (fun t found => holds (found.elim look.miss look.hit) t) t := by
  apply (Gateway.meets_guarded_reply (outline.look here)).bind
  rintro t _ ⟨reply, seen, rfl⟩
  rcases reply with (_ | bs) | fault | _
  · exact seen
  · simp only [Reply.settle, Codec.sight] at seen ⊢
    cases decoded : codec.decode bs with
    | ok v =>
      rw [decoded] at seen
      exact seen
    | error reason =>
      rw [decoded] at seen
      exact (outline.meets_noteFault seen _ _).bind fun _ _ noted => noted
  · exact (outline.meets_noteFault seen _ _).bind fun _ _ noted => noted
  · exact (outline.meets_noteFault seen _ _).bind fun _ _ noted => noted

private theorem meets_tryLock (outline : Outline c g codec key policy compute holds)
    (here : holds .missed t) : (g.tryLock key policy.lockTtl).Meets c
      (fun t attempt => holds (match attempt with
        | .acquired lock => .counting .lockAcquired (.looking (.again lock))
        | .contended => .counting .lockContended (.polling g.pollAttempts)
        | .unavailable => .counting .fallback (.ready .apart)) t) t := by
  refine (outline.draw here).bind fun t token drawn => ?_
  apply (Gateway.meets_guarded_reply (outline.lock drawn)).bind
  rintro t _ ⟨reply, tried, rfl⟩
  rcases reply with (_ | _) | fault | _
  · exact tried
  · exact (outline.hold tried).bind fun _ _ held => held
  · exact (outline.meets_noteFault tried _ _).bind fun _ _ noted => noted
  · exact (outline.meets_noteFault tried _ _).bind fun _ _ noted => noted

private theorem meets_release (outline : Outline c g codec key policy compute holds) {lock : Lock}
    {o : Except ε α} (here : holds (.closing lock o) t) :
    (g.release lock).Meets c (fun t _ => holds (.ended o) t) t := by
  refine (outline.unhold here).bind fun t _ yielded => ?_
  apply (Gateway.meets_guarded_reply (outline.release yielded)).bind
  rintro t _ ⟨reply, tried, rfl⟩
  rcases reply with (_ | _) | fault | _
  · exact outline.log _ tried
  · exact tried
  · exact (outline.count tried).bind fun _ _ counted => outline.log _ counted
  · exact (outline.count tried).bind fun _ _ counted => outline.log _ counted

private theorem meets_timed (outline : Outline c g codec key policy compute holds) {place : Place}
    (here : holds (.ready place) t) :
    (Gateway.timed compute).Meets c (fun t o => holds (.worked place o) t) t :=
  Dialogue.Meets.bind (outline.compute here) fun _ _ made =>
    (outline.count made).bind fun _ _ counted => counted

private theorem meets_write (outline : Outline c g codec key policy compute holds) {place : Place}
    (fills : place ≠ .apart) {v : α} (here : holds (.worked place (.ok v)) t) :
    (g.write codec key v policy.ttl).Meets c (fun t _ => holds (place.after (.ok v)) t) t := by
  rw [Gateway.write]
  cases encoded : codec.encode v with
  | error reason => exact outline.meets_noteFault (outline.unwritten fills here encoded) _ _
  | ok bs =>
    apply (Gateway.meets_guarded_reply (outline.fill fills here encoded)).bind
    rintro t _ ⟨reply, tried, rfl⟩
    rcases reply with _ | fault | _
    · exact tried
    · exact (outline.count tried).bind fun _ _ counted => outline.log _ counted
    · exact (outline.count tried).bind fun _ _ counted => outline.log _ counted

theorem meets_computeAndFill (outline : Outline c g codec key policy compute holds) (place : Place)
    (fills : place ≠ .apart) (here : holds (.ready place) t) :
    (g.computeAndFill codec key policy compute).Meets c
      (fun t o => holds (place.after o) t) t := by
  apply Dialogue.Meets.bind (outline.meets_timed here)
  rintro t (failure | v) made
  · exact outline.failed made
  · exact (outline.meets_write fills made).bind fun _ _ filled => filled

private theorem meets_underLock (outline : Outline c g codec key policy compute holds) {lock : Lock}
    (here : holds (.counting .lockAcquired (.looking (.again lock))) t) :
    (g.underLock codec key policy compute lock).Meets c (fun t o => holds (.ended o) t) t := by
  refine (outline.count here).bind fun t _ counted => ?_
  apply (outline.meets_read counted).bind
  rintro t (_ | v) found
  · apply Dialogue.Meets.bind (outline.meets_computeAndFill (.under lock) nofun found)
    intro t o made
    exact (outline.meets_release made).bind fun _ _ ended => ended
  · apply outline.meets_hit found
    intro t noted
    exact (outline.meets_release noted).bind fun _ _ ended => ended

private theorem meets_poll
    (outline : Outline c g codec key policy compute holds) {attempt left : Nat}
    (here : holds (.polling left) t) : (g.poll codec key attempt left).Meets c
      (fun t found => holds (found.elim (.polling 0) fun v => .ended (.ok v)) t) t := by
  induction left generalizing t attempt with
  | zero => exact here
  | succ left ih =>
    refine (outline.sleep here).bind fun t _ slept => ?_
    apply (outline.meets_read slept).bind
    rintro t (_ | v) found
    · exact ih found
    · exact outline.meets_hit found _ _ fun _ noted => noted

theorem meets_behindLock (outline : Outline c g codec key policy compute holds)
    (here : holds (.counting .lockContended (.polling g.pollAttempts)) t) :
    (g.behindLock codec key policy compute).Meets c (fun t o => holds (.ended o) t) t := by
  refine (outline.count here).bind fun t _ counted => ?_
  apply (outline.meets_poll counted).bind
  rintro t (_ | v) found
  · refine (outline.count (outline.giveUp found)).bind fun t _ counted => ?_
    refine (outline.log _ counted).bind fun t _ noted => ?_
    exact outline.meets_computeAndFill .behind nofun noted
  · exact found

/-- A resolution leads from its first point to its last, with the outcome that holds there. -/
theorem meets_resolve (outline : Outline c g codec key policy compute holds)
    (start : holds (.looking .first) t) :
    (g.resolve codec key policy compute).Meets c (fun t o => holds (.ended o) t) t := by
  apply (outline.meets_read start).bind
  rintro t (_ | v) found
  · refine (outline.count found).bind fun t _ counted => ?_
    refine (outline.log _ counted).bind fun t _ noted => ?_
    apply (outline.meets_tryLock noted).bind
    rintro t (lock | _ | _) tried
    · exact outline.meets_underLock tried
    · exact outline.meets_behindLock tried
    · refine (outline.count tried).bind fun t _ counted => ?_
      exact (outline.meets_timed counted).imp fun t o made => outline.leave made
  · exact outline.meets_hit found _ _ fun _ noted => noted

end Outline

end ClipFeed.Cache
