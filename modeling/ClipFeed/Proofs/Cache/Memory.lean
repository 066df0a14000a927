import ClipFeed.Cache.Memory
/-!
What calls leave of the entries of a memory. A call touches no entry but that of its own key.
-/

namespace ClipFeed.Cache.Memory

open Text

variable {m : Memory} {now : Span} {key name : String} {e : Entry}

private theorem lookup_filter {β : Type} (kept : String → Bool) (entries : List (String × β))
    (name : String) : (entries.filter fun (k, _) => kept k).lookup name =
      if kept name then entries.lookup name else none := by
  induction entries with
  | nil => simp
  | cons entry entries ih =>
    obtain ⟨k, e⟩ := entry
    by_cases same : name = k
    · subst same
      cases holds : kept name <;> simp [holds, ih]
    · have different : (name == k) = false := beq_eq_false_iff_ne.mpr same
      cases holds : kept k <;> simp [holds, List.lookup_cons, different, ih]

theorem lookup_erase {β : Type} (entries : List (String × β)) (key : String) :
    (entries.filter fun (k, _) => k != key).lookup key = none := by
  simp [lookup_filter (· != key)]

theorem lookup_erase_of_ne {β : Type} (other : name ≠ key) (entries : List (String × β)) :
    (entries.filter fun (k, _) => k != key).lookup name = entries.lookup name := by
  simp [lookup_filter (· != key), other]

theorem lookup_insert_of_ne {β : Type} (other : name ≠ key) (entries : List (String × β)) (b : β) :
    List.lookup name ((key, b) :: entries.filter fun (k, _) => k != key) = entries.lookup name := by
  have different : (name == key) = false := beq_eq_false_iff_ne.mpr other
  rw [List.lookup_cons, different]
  exact lookup_erase_of_ne other entries

theorem mem_of_lookup {β : Type} {entries : List (String × β)} {b : β}
    (found : entries.lookup name = some b) : (name, b) ∈ entries := by
  obtain ⟨before, behind, split, _⟩ := List.lookup_eq_some_iff.mp found
  rw [split]
  exact List.mem_append_right before (List.mem_cons_self ..)

@[simp] theorem entry?_erase (m : Memory) (key : String) : entry? (m.erase key) key = none :=
  lookup_erase m.entries key

theorem entry?_erase_of_ne (other : name ≠ key) (m : Memory) :
    entry? (m.erase key) name = m.entry? name :=
  lookup_erase_of_ne other m.entries

@[simp] theorem entry?_insert (m : Memory) (key : String) (e : Entry) :
    entry? (m.insert key e) key = some e := by
  simp [insert, entry?]

theorem entry?_insert_of_ne (other : name ≠ key) (m : Memory) (e : Entry) :
    entry? (m.insert key e) name = m.entry? name :=
  lookup_insert_of_ne other m.entries e

theorem entry?_purge_of_ne (other : name ≠ key) (m : Memory) (now : Span) :
    entry? (m.purge now key) name = m.entry? name := by
  unfold purge
  split
  · split
    · rfl
    · exact entry?_erase_of_ne other m
  · rfl

theorem entry?_of_purge (kept : entry? (m.purge now key) key = some e) : m.entry? key = some e := by
  unfold purge at kept
  split at kept
  · split at kept
    · exact kept
    · rw [entry?_erase] at kept
      cases kept
  · exact kept

/-- A call leaves the entries of other keys alone. -/
theorem entry?_perform_of_ne (call : Call) (other : name ≠ call.key) (m : Memory) (now : Span) :
    entry? (m.perform now call).2 name = m.entry? name := by
  cases call with
  | get key =>
    simp only [perform, get]
    split
    · rfl
    · exact entry?_purge_of_ne other m now
    · rfl
  | set key value ttl => exact entry?_insert_of_ne other m _
  | delete key => exact entry?_erase_of_ne other m
  | setIfAbsent key token ttl =>
    simp only [perform, setIfAbsent]
    split
    · rfl
    · exact entry?_insert_of_ne other m _
  | deleteIfEquals key token =>
    simp only [perform, deleteIfEquals]
    split
    · split
      · exact entry?_erase_of_ne other m
      · rfl
    · rfl

/-- What a lookup finds is an entry, and the lookup leaves it where it is. -/
theorem entry?_of_get {bs : Bytes} (found : (m.get now key).1 = some bs) :
    ∃ e, m.entry? key = some e ∧ e.bytes = bs ∧ (m.get now key).2 = m := by
  unfold get at found ⊢
  cases seen : m.look now key with
  | live bytes =>
    simp only [seen] at found ⊢
    obtain rfl := Option.some.inj found
    unfold look at seen
    split at seen
    · split at seen
      · exact ⟨_, ‹_›, Sight.live.inj seen, trivial⟩
      · cases seen
    · cases seen
  | expired => simp [seen] at found
  | absent => simp [seen] at found

theorem entry?_behind_get (kept : entry? (m.get now key).2 name = some e) :
    m.entry? name = some e := by
  unfold get at kept
  split at kept
  · exact kept
  · by_cases same : name = key
    · subst same
      exact entry?_of_purge kept
    · rwa [entry?_purge_of_ne same] at kept
  · exact kept

theorem look_eq_live {bs : Bytes} : m.look now key = .live bs ↔
    ∃ e, m.entry? key = some e ∧ now < e.expiresAt ∧ e.bytes = bs := by
  have living {e : Entry} : e.isLive now = true ↔ now < e.expiresAt := decide_eq_true_iff
  constructor
  · intro seen
    unfold look at seen
    split at seen
    · next e present =>
      split at seen
      · next lives => exact ⟨e, present, living.mp lives, Sight.live.inj seen⟩
      · cases seen
    · cases seen
  · rintro ⟨e, present, lives, rfl⟩
    rw [look, present]
    exact if_pos (living.mpr lives)

/-- What a lookup finds is alive. -/
theorem lives_of_get {bs : Bytes} (found : (m.get now key).1 = some bs) :
    ∃ e, m.entry? key = some e ∧ now < e.expiresAt ∧ e.bytes = bs := by
  unfold get at found
  split at found
  · next seen =>
    obtain rfl := Option.some.inj found
    exact look_eq_live.mp seen
  · cases found
  · cases found

theorem get_of_live (present : m.entry? key = some e) (lives : now < e.expiresAt) :
    m.get now key = (some e.bytes, m) := by
  simp [get, look_eq_live.mpr ⟨e, present, lives, rfl⟩]

theorem get_of_not_live (free : ∀ e, m.entry? key = some e → ¬ now < e.expiresAt) :
    (m.get now key).1 = none := by
  unfold get
  split
  · next bs seen =>
    obtain ⟨e, present, lives, -⟩ := look_eq_live.mp seen
    exact absurd lives (free e present)
  · rfl
  · rfl

theorem setIfAbsent_of_live {token : String} {ttl : Span} (present : m.entry? key = some e)
    (lives : now < e.expiresAt) : m.setIfAbsent now key token ttl = (false, m) := by
  simp [setIfAbsent, look_eq_live.mpr ⟨e, present, lives, rfl⟩]

theorem setIfAbsent_of_not_live {token : String} {ttl : Span}
    (free : ∀ e, m.entry? key = some e → ¬ now < e.expiresAt) :
    m.setIfAbsent now key token ttl = (true, m.insert key ⟨bytes token, now + ttl⟩) := by
  unfold setIfAbsent
  split
  · next bs seen =>
    obtain ⟨e, present, lives, -⟩ := look_eq_live.mp seen
    exact absurd lives (free e present)
  · rfl

theorem deleteIfEquals_of_live {token : String} (present : m.entry? key = some e)
    (lives : now < e.expiresAt) (holds : e.bytes = bytes token) :
    m.deleteIfEquals now key token = (true, m.erase key) := by
  simp [deleteIfEquals, look_eq_live.mpr ⟨e, present, lives, holds⟩]

theorem deleteIfEquals_of_not_live {token : String}
    (differ : ∀ e, m.entry? key = some e → now < e.expiresAt → e.bytes ≠ bytes token) :
    m.deleteIfEquals now key token = (false, m) := by
  unfold deleteIfEquals
  split
  · next bs seen =>
    obtain ⟨e, present, lives, rfl⟩ := look_eq_live.mp seen
    rw [if_neg (differ e present lives)]
  · rfl

/-- Giving back a token removes nothing but a living entry with that token. -/
theorem entry?_deleteIfEquals {token : String} (present : m.entry? name = some e) :
    entry? (m.deleteIfEquals now key token).2 name = some e ∨
      name = key ∧ now < e.expiresAt ∧ e.bytes = bytes token := by
  unfold deleteIfEquals
  split
  · next bs seen =>
    obtain ⟨there, held, lives, rfl⟩ := look_eq_live.mp seen
    split
    · next equal =>
      by_cases same : name = key
      · subst same
        obtain rfl := Option.some.inj (held.symm.trans present)
        exact .inr ⟨rfl, lives, equal⟩
      · exact .inl ((entry?_erase_of_ne same m).trans present)
    · exact .inl present
  · exact .inl present

theorem entry?_behind_deleteIfEquals {token : String}
    (kept : entry? (m.deleteIfEquals now key token).2 name = some e) :
    m.entry? name = some e := by
  unfold deleteIfEquals at kept
  split at kept
  · split at kept
    · by_cases same : name = key
      · rw [same, entry?_erase] at kept
        cases kept
      · rwa [entry?_erase_of_ne same] at kept
    · exact kept
  · exact kept

private theorem entry?_of_insert
    {there : Entry} (kept : entry? (m.insert key there) name = some e) :
    m.entry? name = some e ∨ name = key ∧ e = there := by
  by_cases same : name = key
  · subst same
    rw [entry?_insert] at kept
    exact .inr ⟨rfl, (Option.some.inj kept).symm⟩
  · rw [entry?_insert_of_ne same] at kept
    exact .inl kept

theorem entry?_of_erase (kept : entry? (m.erase key) name = some e) :
    name ≠ key ∧ m.entry? name = some e := by
  by_cases same : name = key
  · subst same
    rw [entry?_erase] at kept
    cases kept
  · rw [entry?_erase_of_ne same] at kept
    exact ⟨same, kept⟩

/-- Whether a call replaces or removes the entry of a name whatever it holds. -/
def Touches (name : String) : Call → Prop
  | .set other .. | .delete other => other = name
  | _ => False

/-- An entry behind a call was there before, or the call has put it there. -/
theorem entry?_behind_perform {call : Call} (kept : entry? (m.perform now call).2 name = some e) :
    (m.entry? name = some e ∧ ¬ Touches name call) ∨
      (∃ bs ttl, call = .set name bs ttl ∧ e = ⟨bs, now + ttl⟩) ∨
        ∃ token ttl, call = .setIfAbsent name token ttl ∧ e = ⟨bytes token, now + ttl⟩ := by
  cases call with
  | get key => exact .inl ⟨entry?_behind_get kept, id⟩
  | set key bs ttl =>
    by_cases same : name = key
    · subst same
      rw [perform, set, entry?_insert] at kept
      exact .inr (.inl ⟨bs, ttl, rfl, (Option.some.inj kept).symm⟩)
    · rw [perform, set, entry?_insert_of_ne same] at kept
      exact .inl ⟨kept, Ne.symm same⟩
  | delete key =>
    obtain ⟨other, before⟩ := entry?_of_erase kept
    exact .inl ⟨before, Ne.symm other⟩
  | setIfAbsent key token ttl =>
    simp only [perform, setIfAbsent] at kept
    split at kept
    · exact .inl ⟨kept, id⟩
    · rcases entry?_of_insert kept with before | ⟨rfl, rfl⟩
      · exact .inl ⟨before, id⟩
      · exact .inr (.inr ⟨token, ttl, rfl, rfl⟩)
  | deleteIfEquals key token => exact .inl ⟨entry?_behind_deleteIfEquals kept, id⟩

variable {here there : Memory}

private theorem look_congr (same : here.entry? key = there.entry? key) (now : Span) :
    here.look now key = there.look now key := by
  simp only [look, same]

private theorem entry?_purge_congr (same : here.entry? key = there.entry? key) (now : Span) :
    entry? (here.purge now key) key = entry? (there.purge now key) key := by
  cases present : there.entry? key with
  | none => simp [purge, same, present]
  | some e =>
    simp only [purge, same, present]
    split
    · rw [same, present]
    · rw [entry?_erase, entry?_erase]

/-- A call is answered from the entry of its key alone, and so is what it leaves there. -/
theorem perform_congr (call : Call) (same : here.entry? call.key = there.entry? call.key)
    (now : Span) :
    (here.perform now call).1 = (there.perform now call).1 ∧
      entry? (here.perform now call).2 call.key = entry? (there.perform now call).2 call.key := by
  cases call with
  | get key =>
    have seen : here.look now key = there.look now key := look_congr same now
    simp only [perform, get, seen]
    cases there.look now key with
    | live bytes => exact ⟨rfl, same⟩
    | expired => exact ⟨rfl, entry?_purge_congr same now⟩
    | absent => exact ⟨rfl, same⟩
  | set key value ttl => exact ⟨rfl, (entry?_insert ..).trans (entry?_insert ..).symm⟩
  | delete key => exact ⟨rfl, (entry?_erase ..).trans (entry?_erase ..).symm⟩
  | setIfAbsent key token ttl =>
    have seen : here.look now key = there.look now key := look_congr same now
    simp only [perform, setIfAbsent, seen]
    cases there.look now key with
    | live bytes => exact ⟨rfl, same⟩
    | expired => exact ⟨rfl, (entry?_insert ..).trans (entry?_insert ..).symm⟩
    | absent => exact ⟨rfl, (entry?_insert ..).trans (entry?_insert ..).symm⟩
  | deleteIfEquals key token =>
    have seen : here.look now key = there.look now key := look_congr same now
    simp only [perform, deleteIfEquals, seen]
    cases there.look now key with
    | live value =>
      simp only
      split
      · exact ⟨rfl, (entry?_erase ..).trans (entry?_erase ..).symm⟩
      · exact ⟨rfl, same⟩
    | expired => exact ⟨rfl, same⟩
    | absent => exact ⟨rfl, same⟩

end ClipFeed.Cache.Memory
