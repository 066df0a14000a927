import ClipFeed.Cache.Gateway
import ClipFeed.Proofs.Dialogue.Twins
/-!
Where the gateway logs. A resolution logs under the target of the gateway and an eviction under that
of evictions, so neither writes under any other target. What a resolution asks in general says
nothing of the targets of its events, so this is read off step by step.
-/

namespace ClipFeed

/-- A question by which nothing is logged under a target. -/
def Apart (target : String) : Effect → Prop
  | .log event => event.target ≠ target
  | _ => True

namespace Cache.Gateway

variable {α ε : Type} {target : String} (g : Gateway) (codec : Codec α) (key : Key)

theorem apart_guarded (call : Call) : (g.guarded call).Asks (Apart target) := by
  refine (Dialogue.asks_request trivial).bind fun reply => ?_
  cases reply <;> trivial

theorem apart_evict (elsewhere : evictionTarget ≠ target) :
    (g.evict key).Asks (Apart target) := by
  refine (Dialogue.asks_request trivial).bind fun reply => ?_
  cases reply with
  | answered done => exact ⟨trivial, fun _ _ => ⟨elsewhere, fun _ _ => trivial⟩⟩
  | failed fault => exact ⟨trivial, fun _ _ => ⟨elsewhere, fun _ _ => trivial⟩⟩
  | silent => exact ⟨trivial, fun _ _ => ⟨elsewhere, fun _ _ => trivial⟩⟩

variable (elsewhere : Gateway.target ≠ target)
include elsewhere

theorem apart_log {level : Log.Level} {message : String} {fields : List (String × Log.Datum)} :
    (Action.log ⟨level, Gateway.target, message, fields⟩).Asks (Apart target) :=
  Dialogue.asks_request elsewhere

theorem apart_counted {β : Type} {metric : Metric} {level : Log.Level} {message : String}
    {fields : List (String × Log.Datum)} {rest : Action β} (rests : rest.Asks (Apart target)) :
    (do
      Action.count metric
      Action.log ⟨level, Gateway.target, message, fields⟩
      rest : Action β).Asks (Apart target) :=
  ⟨trivial, fun _ _ => ⟨elsewhere, fun _ _ => rests⟩⟩

theorem apart_noteFault (operation : String) (fault : Fault) :
    (noteFault key operation fault).Asks (Apart target) :=
  (Dialogue.asks_request trivial).bind fun _ => apart_log elsewhere

theorem apart_read : (g.read codec key).Asks (Apart target) := by
  refine (g.apart_guarded _).bind fun found => ?_
  rcases found with fault | _ | bs
  · exact (apart_noteFault key elsewhere _ _).bind fun _ => trivial
  · trivial
  · simp only
    split
    · trivial
    · exact (apart_noteFault key elsewhere _ _).bind fun _ => trivial

private theorem apart_write (v : α) (ttl : Span) :
    (g.write codec key v ttl).Asks (Apart target) := by
  unfold write
  split
  · exact apart_noteFault key elsewhere _ _
  · refine (g.apart_guarded _).bind fun stored => ?_
    cases stored with
    | ok done => trivial
    | error fault => exact (Dialogue.asks_request trivial).bind fun _ => apart_log elsewhere

private theorem apart_release (lock : Lock) : (g.release lock).Asks (Apart target) := by
  refine (Dialogue.asks_request trivial).bind fun _ => (g.apart_guarded _).bind fun freed => ?_
  rcases freed with fault | _ | _
  · exact (Dialogue.asks_request trivial).bind fun _ => apart_log elsewhere
  · exact apart_log elsewhere
  · trivial

private theorem apart_tryLock (ttl : Span) : (g.tryLock key ttl).Asks (Apart target) := by
  refine (Dialogue.asks_request trivial).bind fun token => (g.apart_guarded _).bind fun taken => ?_
  rcases taken with fault | _ | _
  · exact (apart_noteFault key elsewhere _ _).bind fun _ => trivial
  · trivial
  · exact (Dialogue.asks_request trivial).bind fun _ => trivial

variable (policy : Policy) {compute : Action (Except ε α)} (computes : compute.Asks (Apart target))
include computes

omit elsewhere in
private theorem apart_timed : (timed compute).Asks (Apart target) :=
  computes.bind fun _ => (Dialogue.asks_request trivial).bind fun _ => trivial

private theorem apart_computeAndFill :
    (g.computeAndFill codec key policy compute).Asks (Apart target) := by
  refine (apart_timed computes).bind fun outcome => ?_
  cases outcome with
  | error failure => trivial
  | ok v => exact (g.apart_write codec key elsewhere v policy.ttl).bind fun _ => trivial

private theorem apart_underLock (lock : Lock) :
    (g.underLock codec key policy compute lock).Asks (Apart target) := by
  refine (Dialogue.asks_request trivial).bind fun _ => (g.apart_read codec key elsewhere).bind ?_
  rintro (_ | v)
  · exact (g.apart_computeAndFill codec key elsewhere policy computes).bind fun _ =>
      (g.apart_release elsewhere lock).bind fun _ => trivial
  · exact apart_counted elsewhere ((g.apart_release elsewhere lock).bind fun _ => trivial)

omit computes in
private theorem apart_poll (attempt left : Nat) :
    (g.poll codec key attempt left).Asks (Apart target) := by
  induction left generalizing attempt with
  | zero => trivial
  | succ left ih =>
    refine (Dialogue.asks_request trivial).bind fun _ => (g.apart_read codec key elsewhere).bind ?_
    rintro (_ | v)
    · exact ih (attempt + 1)
    · exact apart_counted elsewhere trivial

private theorem apart_behindLock : (g.behindLock codec key policy compute).Asks (Apart target) := by
  refine (Dialogue.asks_request trivial).bind fun _ =>
    (g.apart_poll codec key elsewhere 1 g.pollAttempts).bind ?_
  rintro (_ | v)
  · exact apart_counted elsewhere (g.apart_computeAndFill codec key elsewhere policy computes)
  · trivial

/-- Whatever the answers are, a resolution logs under its own target, apart from what its
computation logs. -/
theorem apart_resolve : (g.resolve codec key policy compute).Asks (Apart target) := by
  refine (g.apart_read codec key elsewhere).bind ?_
  rintro (_ | v)
  · refine apart_counted elsewhere ((g.apart_tryLock key elsewhere policy.lockTtl).bind ?_)
    rintro (lock | _ | _)
    · exact g.apart_underLock codec key elsewhere policy computes lock
    · exact g.apart_behindLock codec key elsewhere policy computes
    · exact (Dialogue.asks_request trivial).bind fun _ => apart_timed computes
  · exact apart_counted elsewhere trivial

end Cache.Gateway

end ClipFeed
