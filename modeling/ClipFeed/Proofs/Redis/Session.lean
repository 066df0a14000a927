import ClipFeed.Proofs.Cache.Living
import ClipFeed.Proofs.Dialogue.Transcript
import ClipFeed.Redis.Client
import ClipFeed.Redis.Server
/-!
Cache calls over Redis, whatever the server replies: what is sent, which replies are faults, and
what outlasts a call that fails.
-/

namespace ClipFeed.Redis

open Cache Text

abbrev Conversation := List ((c : Command) × c.Reply)

/-- The milliseconds after which what a command stores expires. -/
def Command.expiry? : Command → Option Nat
  | .set _ _ ttl => some ttl
  | .setAbsent _ _ ttl => some ttl
  | _ => none

theorem Command.expiry_bounds (ttl : Span) : 1 ≤ expiry ttl ∧ expiry ttl ≤ UInt64.size - 1 := by
  have size : 1 ≤ UInt64.size - 1 := by decide
  exact ⟨Nat.le_max_left .., Nat.max_le.mpr ⟨size, Nat.min_le_right ..⟩⟩

theorem Command.expiry_eq {ttl : Span} (low : 1 ≤ ttl.toMillis)
    (high : ttl.toMillis ≤ UInt64.size - 1) : expiry ttl = ttl.toMillis := by
  rw [expiry, Nat.min_eq_left high, Nat.max_eq_right low]

theorem Command.millis_expiry {n : Nat} (low : 1 ≤ n) (high : n ≤ UInt64.size - 1) :
    Span.millis (expiry (Span.millis n)) = Span.millis n := by
  have whole : (Span.millis n).toMillis = n := Nat.mul_div_cancel n (by decide)
  rw [expiry_eq (by rwa [whole]) (by rwa [whole]), whole]

/-- What is sent is never longer than a time to live that is a millisecond or more. -/
theorem Command.millis_expiry_le {ttl : Span} (enough : Span.millis 1 ≤ ttl) :
    Span.millis (expiry ttl) ≤ ttl := by
  have whole : 1 ≤ ttl.toMillis := Nat.div_pos enough (by decide)
  have sent : expiry ttl ≤ ttl.toMillis := Nat.max_le.mpr ⟨whole, Nat.min_le_left ..⟩
  calc Span.millis (expiry ttl)
    _ ≤ Span.millis ttl.toMillis := Nat.mul_le_mul_right _ sent
    _ ≤ ttl := Nat.div_mul_le_self ttl 1000

theorem Command.arguments_expiry {c : Command} {ttl : Nat} (carried : c.expiry? = some ttl) :
    [bytes "PX", bytes (toString ttl)] <:+ c.arguments := by
  cases c with
  | set key value ttl =>
    cases carried
    exact ⟨[bytes key, value], rfl⟩
  | setAbsent key token ttl =>
    cases carried
    exact ⟨[bytes key, bytes token, bytes "NX"], rfl⟩
  | _ => cases carried

namespace Session

variable {xs : Conversation}

theorem ends_send {c : Command} {r : c.Reply} (ended : (send c).Ends xs r) : xs = [⟨c, r⟩] :=
  Dialogue.ends_request_iff.mp ended

theorem ends_map {α β : Type} {s : Session α} {f : α → β} {b : β}
    (ended : Dialogue.Ends (return f (← s) : Session β) xs b) : ∃ a, s.Ends xs a ∧ b = f a := by
  obtain ⟨first, a, rest, asked, returned, rfl⟩ := ended.of_bind
  cases returned
  exact ⟨a, by rwa [List.append_nil], rfl⟩

/-- How the release script may be run: at once, or once more after the server was given it. -/
inductive Releases (key token : String) :
    Conversation → Command.Reply (.release key token) → Prop where
  | ran (deleted : Nat) : Releases key token [⟨.release key token, .ok deleted⟩] (.ok deleted)
  | refused {r : Refusal} (other : r.isMissingScript = false) :
      Releases key token [⟨.release key token, .error r⟩] (.error r)
  | unloaded {r : Refusal} (missing : r.isMissingScript = true) (refusal : Refusal) :
      Releases key token [⟨.release key token, .error r⟩, ⟨.loadRelease, .error refusal⟩]
        (.error refusal)
  | repeated {r : Refusal} (missing : r.isMissingScript = true)
      (reply : Command.Reply (.release key token)) :
      Releases key token [⟨.release key token, .error r⟩, ⟨.loadRelease, .ok ()⟩,
        ⟨.release key token, reply⟩] reply

theorem releases_of_ends {key token : String} {reply : Command.Reply (.release key token)}
    (ended : (release key token).Ends xs reply) : Releases key token xs reply := by
  cases ended with
  | @ask _ _ first xs _ rest =>
    cases first with
    | ok deleted =>
      cases rest
      exact .ran deleted
    | error r =>
      cases missing : r.isMissingScript with
      | false =>
        simp only [Dialogue.done_bind, missing, Bool.false_eq_true, ↓reduceIte] at rest
        cases rest
        exact .refused missing
      | true =>
        simp only [Dialogue.done_bind, missing, ↓reduceIte] at rest
        cases rest with
        | @ask _ _ loaded xs _ rest =>
          cases loaded with
          | error refusal =>
            cases rest
            exact .unloaded missing refusal
          | ok =>
            cases rest with
            | ask rest =>
              cases rest
              exact .repeated missing reply

private theorem failed_iff_last {α : Type} (before : Conversation) {c : Command} (reply : c.Reply)
    (answer : c.Answer → α) {f : Fault} : (reply.map answer).mapError fault = .error f ↔
      ∃ d r, (before ++ [⟨c, reply⟩] : Conversation).getLast? = some ⟨d, .error r⟩ ∧
        f = .backend r.message := by
  rw [List.getLast?_concat]
  cases reply with
  | ok a =>
    refine iff_of_false nofun ?_
    rintro ⟨d, r, same, _⟩
    cases same
  | error refusal =>
    constructor
    · rintro ⟨⟩
      exact ⟨c, refusal, rfl, rfl⟩
    · rintro ⟨d, r, same, rfl⟩
      cases same
      rfl

/-- A call is answered with a fault exactly when the last reply on its way is a refusal, and that is
its fault. -/
theorem failed_iff {call : Call} {o : Except Fault call.Answer} (ended : (perform call).Ends xs o)
    {f : Fault} : o = .error f ↔
      ∃ c r, xs.getLast? = some ⟨c, .error r⟩ ∧ f = .backend r.message := by
  cases call with
  | get key =>
    obtain ⟨reply, sent, rfl⟩ := ends_map ended
    obtain rfl := ends_send sent
    simpa [Except.map_id] using failed_iff_last [] reply id
  | set key value ttl =>
    obtain ⟨reply, sent, rfl⟩ := ends_map ended
    obtain rfl := ends_send sent
    simpa [Except.map_id] using failed_iff_last [] reply id
  | delete key =>
    obtain ⟨reply, sent, rfl⟩ := ends_map ended
    obtain rfl := ends_send sent
    exact failed_iff_last [] reply _
  | setIfAbsent key token ttl =>
    obtain ⟨reply, sent, rfl⟩ := ends_map ended
    obtain rfl := ends_send sent
    simpa [Except.map_id] using failed_iff_last [] reply id
  | deleteIfEquals key token =>
    obtain ⟨reply, sent, rfl⟩ := ends_map ended
    cases releases_of_ends sent with
    | ran deleted => exact failed_iff_last [] (c := .release key token) (.ok deleted) _
    | refused other => exact failed_iff_last [] (c := .release key token) (.error _) _
    | unloaded missing refusal =>
      exact failed_iff_last [_] (c := .loadRelease) (.error refusal) fun _ => false
    | repeated missing reply => exact failed_iff_last [_, _] reply _

/-- Before the last reply nothing is refused but to run a script that the server does not hold. -/
theorem mended {call : Call} {o : Except Fault call.Answer} (ended : (perform call).Ends xs o) :
    ∀ x ∈ xs.dropLast, ∀ r, x.2 = .error r →
      r.isMissingScript = true ∧ ∃ key token, x.1 = .release key token := by
  cases call with
  | deleteIfEquals key token =>
    obtain ⟨reply, sent, rfl⟩ := ends_map ended
    cases releases_of_ends sent with
    | ran => exact nofun
    | refused => exact nofun
    | unloaded missing refusal =>
      refine List.forall_mem_singleton.mpr ?_
      rintro r ⟨⟩
      exact ⟨missing, key, token, rfl⟩
    | repeated missing reply =>
      refine List.forall_mem_cons.mpr ⟨?_, List.forall_mem_singleton.mpr nofun⟩
      rintro r ⟨⟩
      exact ⟨missing, key, token, rfl⟩
  | _ =>
    obtain ⟨reply, sent, -⟩ := ends_map ended
    obtain rfl := ends_send sent
    exact nofun

/-- What stores something does so with one command, which carries the expiry of the call. -/
theorem expiries_sent {call : Call} {o : Except Fault call.Answer}
    (ended : (perform call).Ends xs o) :
    xs.filterMap (fun x => x.1.expiry?) = (call.ttl?.map Command.expiry).toList := by
  cases call with
  | deleteIfEquals key token =>
    obtain ⟨reply, sent, rfl⟩ := ends_map ended
    cases releases_of_ends sent <;> rfl
  | _ =>
    obtain ⟨reply, sent, -⟩ := ends_map ended
    obtain rfl := ends_send sent
    rfl

section

variable {σ : Type} {answer : σ → (c : Command) → c.Reply × σ}

theorem run_map {α β : Type} (s : Session α) (f : α → β) (x : σ) :
    Dialogue.run answer x (return f (← s)) = (f (s.run answer x).1, (s.run answer x).2) :=
  Dialogue.run_bind answer s _ x

theorem run_send (c : Command) (x : σ) : (send c).run answer x = answer x c := rfl

/-- The reply to a release, with the state behind it. -/
theorem run_release (key token : String) (x : σ) : (release key token).run answer x =
    match answer x (.release key token) with
    | (.ok deleted, x) => (.ok deleted, x)
    | (.error r, x) =>
      if r.isMissingScript then
        match answer x .loadRelease with
        | (.ok (), x) => answer x (.release key token)
        | (.error refusal, x) => (.error refusal, x)
      else (.error r, x) := by
  rw [release, Dialogue.run_bind, run_send]
  obtain ⟨r | deleted, x⟩ := answer x (.release key token)
  · simp only
    split
    · rw [Dialogue.run_bind, run_send]
      obtain ⟨refusal | loaded, x⟩ := answer x .loadRelease <;> rfl
    · rfl
  · rfl

/-- Whether what is watched of a server outlasts refusals and the loading of the script. -/
structure Lasts {β : Type} (answer : σ → (c : Command) → c.Reply × σ) (watched : σ → β) : Prop where
  refused : ∀ x c r, (answer x c).1 = .error r → watched (answer x c).2 = watched x
  loaded : ∀ x, watched (answer x .loadRelease).2 = watched x

theorem Lasts.release {β : Type} {watched : σ → β} (lasts : Lasts answer watched)
    {key token : String} {x : σ} {r : Refusal}
    (failed : ((Session.release key token).run answer x).1 = .error r) :
    watched ((Session.release key token).run answer x).2 = watched x := by
  rw [run_release] at failed ⊢
  have first := lasts.refused x (.release key token)
  generalize answer x (.release key token) = replied at *
  obtain ⟨missing | deleted, y⟩ := replied
  · have kept := first missing rfl
    simp only at failed kept ⊢
    split at failed
    · next unscripted =>
      rw [if_pos unscripted]
      have given := lasts.loaded y
      generalize answer y .loadRelease = loading at *
      obtain ⟨refusal | _, z⟩ := loading
      · exact given.trans kept
      · exact (lasts.refused z _ r failed).trans (given.trans kept)
    · next scripted =>
      rw [if_neg scripted]
      exact kept
  · cases failed

private theorem refused_of_failed {α : Type} {reply : Except Refusal α} {f : Fault}
    (failed : reply.mapError fault = .error f) : ∃ r, reply = .error r := by
  cases reply with
  | error r => exact ⟨r, rfl⟩
  | ok a => cases failed

private theorem refused_of_map {α β : Type} {reply : Except Refusal α} {g : α → β} {r : Refusal}
    (refused : reply.map g = .error r) : reply = .error r := by
  cases reply with
  | error _ => exact congrArg _ (Except.error.inj refused)
  | ok a => cases refused

/-- A call that is answered with a fault changes nothing that lasts. -/
theorem Lasts.perform {β : Type} {watched : σ → β} (lasts : Lasts answer watched) {x : σ}
    {call : Call} {f : Fault} (failed : ((perform call).run answer x).1 = .error f) :
    watched ((perform call).run answer x).2 = watched x := by
  cases call with
  | deleteIfEquals key token =>
    rw [Session.perform, run_map] at failed ⊢
    obtain ⟨r, refused⟩ := refused_of_failed failed
    exact lasts.release (refused_of_map refused)
  | delete key =>
    rw [Session.perform, run_map] at failed ⊢
    obtain ⟨r, refused⟩ := refused_of_failed failed
    exact lasts.refused x _ r (refused_of_map refused)
  | _ =>
    rw [Session.perform, run_map] at failed ⊢
    obtain ⟨r, refused⟩ := refused_of_failed failed
    exact lasts.refused x _ r refused

end

end Session

end ClipFeed.Redis
