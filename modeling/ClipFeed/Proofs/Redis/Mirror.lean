import ClipFeed.Proofs.Cache.Living
import ClipFeed.Proofs.Redis.Session
/-!
A server beside the memory inside the process. Each call stores and takes away the same on both
sides and is answered alike; what they have in common lasts until something is gone from one side
only.
-/

namespace ClipFeed.Redis

open Cache Text

namespace Server

variable {s : Server} {now : Span} {key name : String}

private theorem live?_erase (s : Server) (now : Span) (key name : String) :
    (s.erase key).live? now name = if name = key then none else s.live? now name := by
  unfold live?
  split
  · next same =>
    rw [same]
    exact congrArg (Option.filter _) (Memory.lookup_erase s.values key)
  · next other => exact congrArg (Option.filter _) (Memory.lookup_erase_of_ne other s.values)

private theorem live?_insert (s : Server) (key name : String) (value : Bytes) {ttl : Nat}
    (positive : 1 ≤ ttl) : (s.insert key value ttl).live? s.clock name =
      if name = key then some (value, s.clock + .millis ttl) else s.live? s.clock name := by
  split
  · next same =>
    subst same
    have later : s.clock < s.clock + .millis ttl :=
      Nat.lt_add_of_pos_right (Nat.mul_pos positive (by decide))
    simp [live?, insert, Option.filter, later]
  · next other =>
    exact congrArg (Option.filter _) (Memory.lookup_insert_of_ne other s.values _)

private theorem live?_add (s : Server) (now span : Span) (key : String) :
    s.live? (now + span) key =
      (s.live? now key).filter fun (_, expiresAt) => now + span < expiresAt := by
  unfold live?
  cases s.values.lookup key with
  | none => rfl
  | some v =>
    by_cases later : now + span < v.2
    · have lives : now < v.2 := Nat.lt_of_le_of_lt (Nat.le_add_right ..) later
      simp [Option.filter, later, lives]
    · by_cases lives : now < v.2 <;> simp [Option.filter, later, lives]

private theorem mem_of_live? {v : Bytes × Span} (found : s.live? now key = some v) :
    (key, v) ∈ s.values :=
  Memory.mem_of_lookup (Option.filter_eq_some_iff.mp found).1

private theorem live?_delete (s : Server) (key name : String) :
    (s.delete key).2.live? s.clock name = if name = key then none else s.live? s.clock name := by
  unfold delete
  split
  · exact s.live?_erase s.clock key name
  · next absent =>
    split
    · next same =>
      rw [same]
      exact Option.map_eq_none_iff.mp (Option.not_isSome_iff_eq_none.mp absent)
    · rfl

private theorem refusals_execute (s : Server) (c : Command) :
    (s.execute c).2.refusals = s.refusals := by
  have deleted (key : String) : (s.delete key).2.refusals = s.refusals := by
    unfold delete
    split <;> rfl
  cases c with
  | setAbsent key token ttl =>
    simp only [execute]
    split <;> rfl
  | delete key => exact deleted key
  | release key token =>
    simp only [execute]
    split
    · split
      · exact deleted key
      · rfl
    · rfl
  | _ => rfl

/-- A server that was not told to refuse anything executes what it is sent. -/
theorem run_perform {α : Type} (d : Session α) (willing : s.refusals = []) :
    d.run perform s = d.run execute s ∧ (d.run execute s).2.refusals = [] := by
  induction d generalizing s with
  | done a => exact ⟨rfl, willing⟩
  | ask c next ih =>
    have same : s.perform c = s.execute c := by simp [perform, willing]
    have later := ih (s.execute c).1 ((s.refusals_execute c).trans willing)
    simpa only [Dialogue.run, same] using later

private theorem execute_release (known : s.scripted = true) (key token : String) :
    s.execute (.release key token) =
      if s.value? key = some (bytes token) then (.ok 1, s.erase key) else (.ok 0, s) := by
  simp only [execute, known, ↓reduceIte]
  by_cases holds : s.value? key = some (bytes token)
  · simp [delete, holds]
  · simp [holds]

/-- Behind a release the script is there, whether it was loaded before or not. -/
private theorem run_release (s : Server) (key token : String) :
    (Session.release key token).run execute s =
      if s.value? key = some (bytes token) then (.ok 1, { s.erase key with scripted := true })
      else (.ok 0, { s with scripted := true }) := by
  obtain ⟨clock, values, scripted, refusals⟩ := s
  rw [Session.run_release]
  cases scripted with
  | true =>
    rw [execute_release rfl]
    by_cases holds : value? ⟨clock, values, true, refusals⟩ key = some (bytes token)
    · simp [holds, erase]
    · simp [holds]
  | false =>
    have missing : Refusal.missingScript.isMissingScript = true := by decide
    have refused : execute ⟨clock, values, false, refusals⟩ (.release key token) =
      (.error .missingScript, ⟨clock, values, false, refusals⟩) := rfl
    have loaded : execute ⟨clock, values, false, refusals⟩ .loadRelease =
      (.ok (), ⟨clock, values, true, refusals⟩) := rfl
    simp only [refused, missing, loaded, ↓reduceIte]
    exact execute_release rfl key token

theorem lasts_values : Session.Lasts perform values where
  refused s c r refused := by
    unfold perform at refused ⊢
    split
    · rfl
    · next willing =>
      simp only [willing] at refused
      cases c with
      | setAbsent key token ttl =>
        simp only [execute] at refused
        split at refused <;> cases refused
      | release key token =>
        simp only [execute] at refused ⊢
        split
        · next known =>
          rw [if_pos known] at refused
          split at refused <;> cases refused
        · rfl
      | _ => cases refused
  loaded s := by
    unfold perform
    split <;> rfl

/-- Whether a server has, at a time, the values of the living entries of a memory. Their expiries
are `related`. -/
def Mirrors (related : Span → Span → Prop) (now : Span) (s : Server) (m : Memory) : Prop :=
  ∀ key, Option.Rel (fun v e => v.1 = e.bytes ∧ related v.2 e.expiresAt)
    (s.live? now key) (m.live? now key)

variable {m : Memory} {related : Span → Span → Prop}

namespace Mirrors

private theorem value?_eq (mirrors : s.Mirrors related s.clock m) (key : String) :
    s.value? key = m.view s.clock key := by
  have here := mirrors key
  unfold value? Memory.view
  generalize s.live? s.clock key = value at here
  generalize m.live? s.clock key = entry at here
  cases here with
  | none => rfl
  | some same => exact congrArg some same.1

theorem erase (mirrors : s.Mirrors related now m) (key : String) :
    (s.erase key).Mirrors related now (m.erase key) := by
  intro name
  rw [live?_erase, Memory.live?_erase]
  split
  · exact .none
  · exact mirrors name

theorem insert (mirrors : s.Mirrors related s.clock m) (key : String) (value : Bytes) {ttl : Nat}
    {span : Span} (positive : 1 ≤ ttl) (lasting : 0 < span)
    (expiries : related (s.clock + .millis ttl) (s.clock + span)) :
    (s.insert key value ttl).Mirrors related s.clock (m.insert key ⟨value, s.clock + span⟩) := by
  intro name
  have lives : s.clock < s.clock + span := Nat.lt_add_of_pos_right lasting
  rw [live?_insert s key name value positive, Memory.live?_insert]
  split
  · simp only [Option.filter, Entry.isLive, lives, decide_true, ↓reduceIte]
    exact .some ⟨rfl, expiries⟩
  · exact mirrors name

/-- As time passes, both sides keep what is related as long as the same of it is gone. -/
theorem pass (mirrors : s.Mirrors related now m) (pause : Span)
    (stays : ∀ v ∈ s.values, ∀ expiresAt, related v.2.2 expiresAt →
      (now + pause < v.2.2 ↔ now + pause < expiresAt)) :
    s.Mirrors related (now + pause) m := by
  intro key
  rw [live?_add, Memory.live?_add]
  have held (v) (found : s.live? now key = some v) := stays _ (mem_of_live? found)
  have here := mirrors key
  generalize s.live? now key = value at here held
  generalize m.live? now key = entry at here
  cases here with
  | none => exact .none
  | @some v e same =>
    have alike := held v rfl e.expiresAt same.2
    by_cases later : now + pause < e.expiresAt
    · simp only [Option.filter, Entry.isLive, alike.mpr later, later, decide_true, ↓reduceIte]
      exact .some same
    · have gone := mt alike.mp later
      simp [Option.filter, Entry.isLive, gone, later]

/-- A call is answered over the server as by the memory, and leaves the same in both. -/
theorem perform (mirrors : s.Mirrors related s.clock m) (call : Call)
    (sent : ∀ ttl ∈ call.ttl?, 0 < ttl ∧
      related (s.clock + .millis (Command.expiry ttl)) (s.clock + ttl)) :
    ((Session.perform call).run execute s).1 = .ok (m.perform s.clock call).1 ∧
      ((Session.perform call).run execute s).2.Mirrors related s.clock
        (m.perform s.clock call).2 := by
  cases call with
  | get key =>
    refine ⟨?_, fun name => ?_⟩
    · exact congrArg Except.ok ((mirrors.value?_eq key).trans (m.get_eq s.clock key).symm)
    · rw [Memory.perform, Memory.live?_get]
      exact mirrors name
  | set key value ttl =>
    obtain ⟨lasting, expiries⟩ := sent ttl rfl
    exact ⟨rfl, mirrors.insert key value (Command.expiry_bounds ttl).1 lasting expiries⟩
  | delete key =>
    refine ⟨rfl, fun name => ?_⟩
    have left := mirrors.erase key name
    rw [live?_erase, ← live?_delete] at left
    exact left
  | setIfAbsent key token ttl =>
    obtain ⟨lasting, expiries⟩ := sent ttl rfl
    rw [Session.perform, Session.run_map, Session.run_send, execute, mirrors.value?_eq,
      Memory.perform, Memory.setIfAbsent_eq]
    split
    · exact ⟨rfl, mirrors⟩
    · exact ⟨rfl, mirrors.insert key _ (Command.expiry_bounds ttl).1 lasting expiries⟩
  | deleteIfEquals key token =>
    rw [Session.perform, Session.run_map, run_release, mirrors.value?_eq, Memory.perform,
      Memory.deleteIfEquals_eq]
    split
    · exact ⟨rfl, mirrors.erase key⟩
    · exact ⟨rfl, mirrors⟩

end Mirrors

end Server

end ClipFeed.Redis
