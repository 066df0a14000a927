import ClipFeed.Proofs.Cache.Key
import ClipFeed.Proofs.Cache.Memory
/-!
Memories that differ only in the tokens that locks are marked with. Calls for entries are answered
alike, and locks are granted and given back together.
-/

namespace ClipFeed.Cache

open Text

/-- Memories whose entries are the same, up to the tokens that locks are marked with. -/
structure Memory.Alike (here there : Memory) : Prop where
  entries : ∀ name, (∀ key : Key, name ≠ key.lockName) → here.entry? name = there.entry? name
  expiries : ∀ name,
    (here.entry? name).map Entry.expiresAt = (there.entry? name).map Entry.expiresAt

/-- Locks that two callers hold in memories of their own. -/
structure Memory.Locked (here there : Memory) (mine other : Lock) : Prop where
  keys : ∃ key : Key, mine.key = key.lockName ∧ other.key = key.lockName
  entries : ∃ expiry, here.entry? mine.key = some ⟨bytes mine.token, expiry⟩ ∧
    there.entry? other.key = some ⟨bytes other.token, expiry⟩

namespace Memory

variable {here there : Memory}

theorem Alike.refl (m : Memory) : m.Alike m := ⟨fun _ _ => rfl, fun _ => rfl⟩

theorem Alike.change (alike : here.Alike there) {hereAfter thereAfter : Memory} {key : String}
    (others : ∀ name, name ≠ key → hereAfter.entry? name = here.entry? name ∧
      thereAfter.entry? name = there.entry? name)
    (entry : (∀ lock : Key, key ≠ lock.lockName) → hereAfter.entry? key = thereAfter.entry? key)
    (expiry : (hereAfter.entry? key).map Entry.expiresAt =
      (thereAfter.entry? key).map Entry.expiresAt) : hereAfter.Alike thereAfter := by
  refine ⟨fun name unlocked => ?_, fun name => ?_⟩
  · by_cases same : name = key
    · subst same
      exact entry unlocked
    · rw [(others name same).1, (others name same).2]
      exact alike.entries name unlocked
  · by_cases same : name = key
    · subst same
      exact expiry
    · rw [(others name same).1, (others name same).2]
      exact alike.expiries name

/-- A call for an entry is answered alike and leaves memories alike. -/
theorem Alike.perform (alike : here.Alike there) (now : Span) {call : Call} {key : Key}
    (named : call.key = key.name) : (here.perform now call).1 = (there.perform now call).1 ∧
      (here.perform now call).2.Alike (there.perform now call).2 := by
  have free : ∀ lock : Key, call.key ≠ lock.lockName := fun lock same =>
    Key.lockName_ne_name lock key (same.symm.trans named)
  obtain ⟨answer, kept⟩ := perform_congr call (alike.entries call.key free) now
  refine ⟨answer, alike.change (fun name other => ?_) (fun _ => kept) (by rw [kept])⟩
  exact ⟨entry?_perform_of_ne call other here now, entry?_perform_of_ne call other there now⟩

theorem Locked.perform {mine other : Lock} (locked : here.Locked there mine other) (now : Span)
    {call : Call} {key : Key} (named : call.key = key.name) :
    (here.perform now call).2.Locked (there.perform now call).2 mine other := by
  obtain ⟨⟨lock, first, second⟩, expiry, entries⟩ := locked
  have apart : lock.lockName ≠ call.key := fun same =>
    Key.lockName_ne_name lock key (same.trans named)
  refine ⟨⟨lock, first, second⟩, expiry, ?_⟩
  rw [first, second] at entries ⊢
  rwa [entry?_perform_of_ne call apart, entry?_perform_of_ne call apart]

/-- Whether a lock is free does not depend on the token of its last holder. -/
theorem Alike.look (alike : here.Alike there) (now : Span) (name : String) :
    (∃ bs₁ bs₂, here.look now name = .live bs₁ ∧ there.look now name = .live bs₂) ∨
      here.look now name = there.look now name := by
  have expiries := alike.expiries name
  unfold Memory.look
  cases first : here.entry? name with
  | none =>
    rw [first, Option.map_none, eq_comm, Option.map_eq_none_iff] at expiries
    exact .inr (by rw [expiries])
  | some e =>
    rw [first, Option.map_some, eq_comm, Option.map_eq_some_iff] at expiries
    obtain ⟨e', second, same⟩ := expiries
    rw [second]
    by_cases live : now < e.expiresAt
    · exact .inl ⟨e.bytes, e'.bytes, by simp [Entry.isLive, live],
        by simp [Entry.isLive, same, live]⟩
    · exact .inr (by simp [Entry.isLive, same, live])

theorem Alike.insert (alike : here.Alike there) (lock : Key) (bs₁ bs₂ : Bytes) (expiry : Span) :
    (here.insert lock.lockName ⟨bs₁, expiry⟩).Alike (there.insert lock.lockName ⟨bs₂, expiry⟩) := by
  refine alike.change (fun name other => ?_) (fun unlocked => absurd rfl (unlocked lock)) ?_
  · exact ⟨entry?_insert_of_ne other here _, entry?_insert_of_ne other there _⟩
  · rw [entry?_insert, entry?_insert]
    rfl

theorem Alike.erase (alike : here.Alike there) (key : String) :
    (here.erase key).Alike (there.erase key) := by
  have gone := (entry?_erase here key).trans (entry?_erase there key).symm
  refine alike.change (fun name other => ?_) (fun _ => gone) (by rw [gone])
  exact ⟨entry?_erase_of_ne other here, entry?_erase_of_ne other there⟩

/-- Two callers get a lock or find it taken together. -/
theorem Alike.setIfAbsent (alike : here.Alike there) (now : Span) (lock : Key)
    (token₁ token₂ : String) (ttl : Span) :
    (here.setIfAbsent now lock.lockName token₁ ttl = (false, here) ∧
      there.setIfAbsent now lock.lockName token₂ ttl = (false, there)) ∨
    ∃ here' there', here.setIfAbsent now lock.lockName token₁ ttl = (true, here') ∧
      there.setIfAbsent now lock.lockName token₂ ttl = (true, there') ∧ here'.Alike there' ∧
      here'.Locked there' ⟨lock.lockName, token₁⟩ ⟨lock.lockName, token₂⟩ := by
  have taken := alike.insert lock (bytes token₁) (bytes token₂) (now + ttl)
  have locked : (here.insert lock.lockName ⟨bytes token₁, now + ttl⟩).Locked
      (there.insert lock.lockName ⟨bytes token₂, now + ttl⟩) ⟨lock.lockName, token₁⟩
      ⟨lock.lockName, token₂⟩ :=
    ⟨⟨lock, rfl, rfl⟩, now + ttl, entry?_insert .., entry?_insert ..⟩
  unfold Memory.setIfAbsent
  rcases alike.look now lock.lockName with ⟨bs₁, bs₂, first, second⟩ | same
  · exact .inl (by simp only [first, second, and_self])
  · rw [same]
    cases seen : there.look now lock.lockName with
    | live bs => exact .inl ⟨rfl, rfl⟩
    | expired => exact .inr ⟨_, _, rfl, rfl, taken, locked⟩
    | absent => exact .inr ⟨_, _, rfl, rfl, taken, locked⟩

/-- Two holders give their locks back together, or find together that they have expired. -/
theorem Alike.deleteIfEquals (alike : here.Alike there) (now : Span) {mine other : Lock}
    (locked : here.Locked there mine other) :
    (here.deleteIfEquals now mine.key mine.token).1 =
        (there.deleteIfEquals now other.key other.token).1 ∧
      (here.deleteIfEquals now mine.key mine.token).2.Alike
        (there.deleteIfEquals now other.key other.token).2 := by
  obtain ⟨⟨lock, first, second⟩, expiry, held, heldToo⟩ := locked
  simp only [Memory.deleteIfEquals, Memory.look, held, heldToo, Entry.isLive]
  by_cases live : now < expiry
  · simp only [live, decide_true, if_true]
    rw [first, second]
    exact ⟨trivial, alike.erase lock.lockName⟩
  · simp only [live, decide_false]
    exact ⟨rfl, alike⟩

end Memory

end ClipFeed.Cache
