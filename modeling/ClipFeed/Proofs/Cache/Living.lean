import ClipFeed.Proofs.Cache.Memory
/-!
Living entries of a memory. Calls are answered from these alone, and removing what has expired
leaves them as they are.
-/

namespace ClipFeed.Cache

open Text

def Call.ttl? : Call → Option Span
  | .set _ _ ttl => some ttl
  | .setIfAbsent _ _ ttl => some ttl
  | _ => none

namespace Memory

def live? (m : Memory) (now : Span) (name : String) : Option Entry :=
  (m.entry? name).filter (·.isLive now)

def view (m : Memory) (now : Span) (name : String) : Option Bytes :=
  (m.live? now name).map (·.bytes)

variable {m : Memory} {now : Span} {name key : String} {e : Entry}

theorem live?_eq_some : m.live? now name = some e ↔ m.entry? name = some e ∧ now < e.expiresAt := by
  simp [live?, Option.filter_eq_some_iff, Entry.isLive]

theorem live?_eq_none :
    m.live? now name = none ↔ ∀ e, m.entry? name = some e → ¬ now < e.expiresAt := by
  simp [live?, Option.filter_eq_none_iff, Entry.isLive]

theorem live?_insert (m : Memory) (now : Span) (key name : String) (e : Entry) :
    (m.insert key e).live? now name =
      if name = key then (some e).filter (·.isLive now) else m.live? now name := by
  unfold live?
  split
  · next same => rw [same, entry?_insert]
  · next other => rw [entry?_insert_of_ne other]

theorem live?_erase (m : Memory) (now : Span) (key name : String) :
    (m.erase key).live? now name = if name = key then none else m.live? now name := by
  unfold live?
  split
  · next same => rw [same, entry?_erase, Option.filter_none]
  · next other => rw [entry?_erase_of_ne other]

theorem entry?_purge_of_live {since : Span} (present : m.entry? name = some e)
    (lives : since < e.expiresAt) (key : String) :
    entry? (m.purge since key) name = some e := by
  by_cases same : name = key
  · subst same
    simp [purge, present, Entry.isLive, lives]
  · rw [entry?_purge_of_ne same, present]

/-- What has expired by a time is not alive later, so a removal as of then changes nothing that can
be told. -/
theorem live?_purge {since : Span} (earlier : since ≤ now) (m : Memory) (key name : String) :
    (m.purge since key).live? now name = m.live? now name := by
  ext e
  rw [live?_eq_some, live?_eq_some]
  constructor
  · rintro ⟨kept, lives⟩
    refine ⟨?_, lives⟩
    by_cases same : name = key
    · subst same
      exact entry?_of_purge kept
    · rwa [entry?_purge_of_ne same] at kept
  · rintro ⟨present, lives⟩
    exact ⟨entry?_purge_of_live present (Nat.lt_of_le_of_lt earlier lives) key, lives⟩

theorem live?_add (m : Memory) (now span : Span) (name : String) :
    m.live? (now + span) name = (m.live? now name).filter (·.isLive (now + span)) := by
  ext e
  rw [live?_eq_some, Option.filter_eq_some_iff, live?_eq_some, Entry.isLive, decide_eq_true_eq]
  constructor
  · rintro ⟨present, lives⟩
    exact ⟨⟨present, Nat.lt_of_le_of_lt (Nat.le_add_right ..) lives⟩, lives⟩
  · rintro ⟨⟨present, _⟩, lives⟩
    exact ⟨present, lives⟩

theorem live?_get (m : Memory) (now : Span) (key name : String) :
    (m.get now key).2.live? now name = m.live? now name := by
  unfold get
  split
  · rfl
  · exact live?_purge (Nat.le_refl now) m key name
  · rfl

theorem get_eq (m : Memory) (now : Span) (key : String) :
    (m.get now key).1 = m.view now key := by
  unfold view
  cases found : m.live? now key with
  | none => exact get_of_not_live (live?_eq_none.mp found)
  | some e =>
    obtain ⟨present, lives⟩ := live?_eq_some.mp found
    rw [get_of_live present lives, Option.map_some]

theorem contains_eq (m : Memory) (now : Span) (key : String) :
    m.contains now key = (m.view now key).isSome := by
  unfold view
  cases found : m.live? now key with
  | none =>
    unfold contains
    split
    · next seen =>
      obtain ⟨e, present, lives, _⟩ := look_eq_live.mp seen
      exact absurd lives (live?_eq_none.mp found e present)
    · rfl
  | some e =>
    obtain ⟨present, lives⟩ := live?_eq_some.mp found
    simp [contains, look_eq_live.mpr ⟨e, present, lives, rfl⟩]

theorem setIfAbsent_eq (m : Memory) (now : Span) (key token : String) (ttl : Span) :
    m.setIfAbsent now key token ttl = if (m.view now key).isSome then (false, m)
      else (true, m.insert key ⟨bytes token, now + ttl⟩) := by
  unfold view
  cases found : m.live? now key with
  | none => exact setIfAbsent_of_not_live (live?_eq_none.mp found)
  | some e =>
    obtain ⟨present, lives⟩ := live?_eq_some.mp found
    exact setIfAbsent_of_live present lives

theorem deleteIfEquals_eq (m : Memory) (now : Span) (key token : String) :
    m.deleteIfEquals now key token =
      if m.view now key = some (bytes token) then (true, m.erase key) else (false, m) := by
  split
  · next holds =>
    obtain ⟨e, found, same⟩ := Option.map_eq_some_iff.mp holds
    obtain ⟨present, lives⟩ := live?_eq_some.mp found
    exact deleteIfEquals_of_live present lives same
  · next differ =>
    refine deleteIfEquals_of_not_live fun e present lives same => differ ?_
    rw [view, live?_eq_some.mpr ⟨present, lives⟩, Option.map_some, same]

end Memory

end ClipFeed.Cache
