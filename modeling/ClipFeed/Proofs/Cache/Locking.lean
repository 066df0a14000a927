import ClipFeed.Proofs.Cache.Gateway
import ClipFeed.Proofs.Cache.Key
import ClipFeed.Proofs.Dialogue.Dropping
import ClipFeed.Simulation.Schedule
/-!
How a resolution handles its lock: it draws a token, takes the lock of its key with it at most once,
and gives back exactly what it took, on every way out and also when it is dropped.
-/

namespace ClipFeed.Cache

open Simulation

/-- What a caller has in hands: a token that it has not used, a lock that it took and has not given
back, and a lock that is given back when the caller is dropped. -/
structure Hands where
  token : Option String
  claim : Option Lock
  guard : Option Lock

namespace Hands

def empty : Hands := ⟨none, none, none⟩

def after (h : Hands) : (q : Effect) → q.Answer → Hands
  | .lockToken, token => { h with token := some token }
  | .cache _ (.setIfAbsent name token _), r =>
    { h with token := none, claim := if r = .answered true then some ⟨name, token⟩ else none }
  | .cache _ (.deleteIfEquals ..), _ => { h with claim := none }
  | q, _ => { h with guard := heldAfter h.guard q }

/-- Behind a drop the lock is in the hands of the release that runs on its own. -/
def dropped (h : Hands) : Hands := { h with guard := none }

end Hands

/-- The questions whose answers take time. Only at these an operation can be dropped. -/
def Waits : Effect → Prop
  | .store _ => True
  | .probe => True
  | .sleep _ => True
  | _ => False

def NamesLock (name : String) : Prop := ∃ key : Key, name = key.lockName

/-- The discipline of whoever uses locks: only the own lock is taken, with a token that was just
drawn, only a lock that was taken is given back, and whoever waits is prepared to be dropped. -/
def discipline : Contract Effect Effect.Answer (Key × Hands) where
  asks
    | _, .cache _ (.get name) => ¬ NamesLock name
    | _, .cache _ (.set name _ _) => ¬ NamesLock name
    | _, .cache _ (.delete name) => ¬ NamesLock name
    | t, .cache _ (.setIfAbsent name token _) =>
      name = t.1.lockName ∧ t.2.token = some token ∧ t.2.claim = none
    | t, .cache _ (.deleteIfEquals name token) => t.2.claim = some ⟨name, token⟩
    | t, q => Waits q → t.2.guard = t.2.claim
  hears _ _ _ := True
  write t q a := (t.1, t.2.after q a)

/-- What leaves all locks alone. -/
def Aside : Effect → Prop
  | .cache _ (.get name) => ¬ NamesLock name
  | .cache _ (.set name _ _) => ¬ NamesLock name
  | .cache _ (.delete name) => ¬ NamesLock name
  | .cache .. => False
  | .lockToken | .hold _ | .unhold => False
  | _ => True

theorem not_namesLock_name (key : Key) : ¬ NamesLock key.name := by
  rintro ⟨other, same⟩
  exact other.lockName_ne_name key same.symm

/-- What leaves all locks alone may be asked, and nothing in hands changes by it. -/
theorem Aside.keeps {q : Effect} (aside : Aside q) {t : Key × Hands}
    (fits : t.2.guard = t.2.claim) :
    discipline.asks t q ∧ ∀ a, discipline.write t q a = t := by
  match q with
  | .cache _ (.get _) | .cache _ (.set ..) | .cache _ (.delete _) => exact ⟨aside, fun _ => rfl⟩
  | .store _ | .probe | .sleep _ => exact ⟨fun _ => fits, fun _ => rfl⟩
  | .requestId | .count _ | .log _ | .note _ => exact ⟨nofun, fun _ => rfl⟩

private theorem meets_aside {α : Type} {d : Action α} (aside : d.Asks Aside) {t : Key × Hands}
    (fits : t.2.guard = t.2.claim) : d.Meets discipline (fun t' _ => t' = t) t := by
  induction d with
  | done a => rfl
  | ask q next ih =>
    obtain ⟨asked, unchanged⟩ := Aside.keeps aside.1 fits
    refine ⟨asked, ?_⟩
    intro a _
    rw [unchanged]
    exact ih a (aside.2 a trivial)

variable {α ε : Type}

namespace Point

/-- What is claimed at a point, and what is given back when the resolution is dropped there. -/
def grip : Point α ε → Option Lock × Option Lock
  | .looking look => (look.lock?, look.lock?)
  | .missed => (none, none)
  | .drawn _ => (none, none)
  | .granted lock => (some lock, none)
  | .polling _ => (none, none)
  | .ready place => (place.lock?, place.lock?)
  | .worked place _ => (place.lock?, place.lock?)
  | .closing lock _ => (some lock, some lock)
  | .yielded lock _ => (some lock, none)
  | .ended _ => (none, none)
  | .counting _ p => p.grip
  | .noting p => p.grip

def token? : Point α ε → Option String
  | .drawn token => some token
  | .counting _ p => p.token?
  | .noting p => p.token?
  | _ => none

end Point

/-- Whether what a caller has in hands is what a point calls for. -/
structure Handles (key : Key) (p : Point α ε) (t : Key × Hands) : Prop where
  key : t.1 = key
  grip : (t.2.claim, t.2.guard) = p.grip
  token : ∀ token ∈ p.token?, t.2.token = some token

theorem Handles.claim {key : Key} {p : Point α ε} {t : Key × Hands} (handles : Handles key p t) :
    t.2.claim = p.grip.1 :=
  congrArg Prod.fst handles.grip

private theorem Handles.guard
    {key : Key} {p : Point α ε} {t : Key × Hands} (handles : Handles key p t) :
    t.2.guard = p.grip.2 :=
  congrArg Prod.snd handles.grip

private theorem Look.token?_next (look : Look) (s : Sighting α) :
    (look.next s : Point α ε).token? = none := by
  cases look <;> cases s <;> rfl

private theorem Look.grip_next (look : Look) (s : Sighting α) :
    (look.next s : Point α ε).grip = (look.lock?, look.lock?) := by
  cases look <;> cases s <;> rfl

private theorem Place.token?_after (place : Place) (o : Except ε α) :
    (place.after o).token? = none := by
  cases place <;> rfl

private theorem Place.grip_after (place : Place) (o : Except ε α) :
    (place.after o).grip = (place.lock?, place.lock?) := by
  cases place <;> rfl

private theorem Gateway.locking_outline
    (g : Gateway) (codec : Codec α) (key : Key) (policy : Policy)
    {compute : Action (Except ε α)} (aside : compute.Asks Aside) :
    Outline discipline g codec key policy compute (Handles key) where
  log event handles := ⟨nofun, fun _ _ => ⟨handles.key, handles.grip, handles.token⟩⟩
  count handles := ⟨nofun, fun _ _ => ⟨handles.key, handles.grip, handles.token⟩⟩
  look {look t} handles := by
    refine ⟨not_namesLock_name key, fun s _ => ⟨handles.key, ?_, ?_⟩⟩
    · rw [Look.grip_next]
      exact handles.grip
    · rw [Look.token?_next]
      nofun
  draw {t} handles := by
    refine ⟨nofun, fun token _ => ⟨handles.key, handles.grip, ?_⟩⟩
    rintro _ ⟨⟩
    rfl
  lock {token t} handles := by
    refine ⟨⟨?_, handles.token _ rfl, handles.claim⟩, ?_⟩
    · rw [handles.key]
    · rintro ((_ | _) | fault | _) _
      · exact ⟨handles.key, congrArg (none, ·) handles.guard, nofun⟩
      · exact ⟨handles.key, congrArg (some _, ·) handles.guard, nofun⟩
      · exact ⟨handles.key, congrArg (none, ·) handles.guard, nofun⟩
      · exact ⟨handles.key, congrArg (none, ·) handles.guard, nofun⟩
  hold handles := ⟨nofun, fun _ _ => ⟨handles.key, congrArg (·, _) handles.claim, nofun⟩⟩
  sleep handles :=
    ⟨fun _ => handles.guard.trans handles.claim.symm, fun _ _ => ⟨handles.key, handles.grip, nofun⟩⟩
  giveUp handles := ⟨handles.key, handles.grip, nofun⟩
  compute handles := by
    apply (meets_aside aside (handles.guard.trans handles.claim.symm)).imp
    rintro _ o rfl
    exact ⟨handles.key, handles.grip, nofun⟩
  fill {place v bs t} _ handles _ := by
    refine ⟨not_namesLock_name key, fun r _ => ⟨handles.key, ?_, ?_⟩⟩
    · cases r <;> exact handles.grip.trans (place.grip_after _).symm
    · cases r <;> simp [Point.past, Point.token?, Place.token?_after]
  unwritten {place v reason t} _ handles _ :=
    ⟨handles.key, handles.grip.trans (place.grip_after _).symm,
      by simp [Point.token?, Place.token?_after]⟩
  failed {place failure t} handles :=
    ⟨handles.key, handles.grip.trans (place.grip_after _).symm,
      by simp [Place.token?_after]⟩
  leave handles := ⟨handles.key, handles.grip, nofun⟩
  unhold handles := ⟨nofun, fun _ _ => ⟨handles.key, congrArg (·, _) handles.claim, nofun⟩⟩
  release {lock o t} handles := by
    refine ⟨handles.claim, ?_⟩
    rintro ((_ | _) | fault | _) _ <;>
      exact ⟨handles.key, congrArg (none, ·) handles.guard, nofun⟩

/-- Whoever comes to the end of a resolution has no lock left. -/
theorem Gateway.meets_resolve_discipline (g : Gateway) (codec : Codec α) (key : Key)
    (policy : Policy) {compute : Action (Except ε α)} (aside : compute.Asks Aside) :
    (g.resolve codec key policy compute).Meets discipline (fun t _ => t.2.claim = none)
      (key, .empty) :=
  ((g.locking_outline codec key policy aside).meets_resolve ⟨rfl, rfl, nofun⟩).imp
    fun _ _ handles => handles.claim

private theorem Gateway.evict_aside (g : Gateway) (key : Key) : (g.evict key).Asks Aside := by
  refine g.asks_evict (fun q noting => ?_) (not_namesLock_name key)
  cases q <;> trivial

private theorem Gateway.meets_releaseLock_discipline (g : Gateway) {lock : Lock} {t : Key × Hands}
    (claim : t.2.claim = some lock) : (g.releaseLock lock).Meets (discipline.without Waits)
      (fun t _ => t.2.claim = none) t := by
  refine ⟨⟨claim, nofun⟩, ?_⟩
  rintro ((_ | _) | fault | _) _
  · exact ⟨⟨nofun, nofun⟩, fun _ _ => rfl⟩
  · rfl
  · exact ⟨⟨nofun, nofun⟩, fun _ _ => ⟨⟨nofun, nofun⟩, fun _ _ => rfl⟩⟩
  · exact ⟨⟨nofun, nofun⟩, fun _ _ => ⟨⟨nofun, nofun⟩, fun _ _ => rfl⟩⟩

/-- A resolution whose computation leaves locks alone. -/
structure Visit where
  {Value Failure : Type}
  gateway : Gateway
  codec : Codec Value
  key : Key
  policy : Policy
  compute : Action (Except Failure Value)
  aside : compute.Asks Aside

/-- What a caller is out for: to resolve a key or to evict its entry. -/
inductive Errand where
  | resolve (visit : Visit)
  | evict (gateway : Gateway) (key : Key)

namespace Errand

def gateway : Errand → Gateway
  | resolve visit => visit.gateway
  | evict gateway _ => gateway

def key : Errand → Key
  | resolve visit => visit.key
  | evict _ key => key

def Outcome : Errand → Type
  | resolve visit => Except visit.Failure visit.Value
  | evict .. => Unit

def run : (e : Errand) → Action e.Outcome
  | resolve visit => visit.gateway.resolve visit.codec visit.key visit.policy visit.compute
  | evict gateway key => gateway.evict key

/-- What is left of a dropped errand: the release of the lock that it held. -/
def left (e : Errand) :
    Option Lock → Dialogue Effect (fun q => Option q.Answer) (Option e.Outcome)
  | none => .done none
  | some lock => (e.gateway.releaseLock lock).steady >>= fun _ => .done none

/-- The errand, up to its end or up to the end of what is left of it once it is dropped. -/
def life (e : Errand) : Dialogue Effect (fun q => Option q.Answer) (Option e.Outcome) :=
  e.run.droppable heldAfter e.left none

end Errand

def disciplineOrDrop : Contract Effect (fun q => Option q.Answer) (Key × Hands) :=
  discipline.withDrops Waits fun t => (t.1, t.2.dropped)

private theorem Hands.guard_after (h : Hands) (q : Effect) (a : q.Answer) :
    (h.after q a).guard = heldAfter h.guard q := by
  match q with
  | .cache _ call => cases call <;> rfl
  | .store _ | .probe | .sleep _ | .lockToken | .requestId | .hold _ | .unhold | .count _ | .log _
  | .note _ => rfl

private theorem heldAfter_of_waits {q : Effect} (waits : Waits q) (held : Option Lock) :
    heldAfter held q = held := by
  cases q <;> first | rfl | exact waits.elim

private theorem guard_eq_claim_of_waits {t : Key × Hands} {q : Effect} (asked : discipline.asks t q)
    (waits : Waits q) : t.2.guard = t.2.claim := by
  match q with
  | .store _ | .probe | .sleep _ => exact asked waits

theorem Errand.meets_run (e : Errand) :
    e.run.Meets discipline (fun t _ => t.2.claim = none) (e.key, .empty) := by
  cases e with
  | resolve visit => exact Gateway.meets_resolve_discipline _ _ _ _ visit.aside
  | evict gateway key =>
    apply (meets_aside (gateway.evict_aside key) rfl).imp
    rintro _ _ rfl
    rfl

/-- Whether it comes to its end or is dropped, an errand leaves no lock behind. -/
theorem Errand.meets_life (e : Errand) :
    e.life.Meets disciplineOrDrop (fun t _ => t.2.claim = none) (e.key, .empty) := by
  apply Dialogue.Meets.droppable (fun t : Key × Hands => t.2.guard)
    (fun t q a => t.2.guard_after q a) _ (fun _ _ claim => claim) e.meets_run
  intro t q asked waits
  rw [heldAfter_of_waits waits, guard_eq_claim_of_waits asked waits]
  cases claim : t.2.claim with
  | none => exact claim
  | some lock =>
    have released := e.gateway.meets_releaseLock_discipline (t := (t.1, t.2.dropped)) claim
    exact (released.steady fun _ _ gone => gone).bind fun _ _ gone => gone

end ClipFeed.Cache
