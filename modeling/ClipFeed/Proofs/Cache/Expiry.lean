import ClipFeed.Proofs.Cache.Living
import Mathlib.Data.Set.Card
/-!
The memory against an ideal map, from which an entry is gone at the instant its time to live has
elapsed. The memory keeps what has expired until somebody finds it, and what a lookup has found so
is removed some time later; neither can be told from the answers.
-/

namespace ClipFeed.Cache

open Text

structure Ideal.Item where
  bytes : Bytes
  since : Span
  ttl : Span

/-- An ideal map and the time by which its items disappear. -/
structure Ideal where
  now : Span
  items : String → Option Ideal.Item

namespace Ideal

def empty (now : Span) : Ideal := ⟨now, fun _ => none⟩

/-- Every item disappears whose time to live has elapsed. -/
def settle (i : Ideal) : Ideal :=
  { i with items := fun name => (i.items name).filter fun x => i.now < x.since + x.ttl }

def pass (i : Ideal) (span : Span) : Ideal := settle { i with now := i.now + span }

def put (i : Ideal) (name : String) (bytes : Bytes) (ttl : Span) : Ideal :=
  settle { i with items := Function.update i.items name (some ⟨bytes, i.now, ttl⟩) }

def drop (i : Ideal) (name : String) : Ideal :=
  { i with items := Function.update i.items name none }

def bytes? (i : Ideal) (name : String) : Option Bytes := (i.items name).map (·.bytes)

def perform (i : Ideal) : (call : Call) → call.Answer × Ideal
  | .get name => (i.bytes? name, i)
  | .set name value ttl => ((), i.put name value ttl)
  | .delete name => ((), i.drop name)
  | .setIfAbsent name token ttl =>
    if (i.bytes? name).isSome then (false, i) else (true, i.put name (bytes token) ttl)
  | .deleteIfEquals name token =>
    if i.bytes? name = some (bytes token) then (true, i.drop name) else (false, i)

noncomputable def size (i : Ideal) : Nat := {name | (i.bytes? name).isSome}.ncard

end Ideal

/-- What happens to a map: time passes, or somebody uses it. A lookup may take a turn of its own and
leave the removal of what it found expired to a later one. -/
inductive Turn where
  | pass (span : Span)
  | call (call : Call)
  | look (name : String)
  /-- The removal that a lookup left to do, by its number among those that are left. -/
  | purge (number : Nat)
  | contains (name : String)
  | size

namespace Turn

@[reducible] def Answer : Turn → Type
  | .pass _ => Unit
  | .call c => c.Answer
  | .look _ => Option Bytes
  | .purge _ => Unit
  | .contains _ => Bool
  | .size => Nat

def isPurge : Turn → Bool
  | .purge _ => true
  | _ => false

def play {σ : Type} (step : σ → (turn : Turn) → turn.Answer × σ) :
    σ → List Turn → List ((turn : Turn) × turn.Answer) × σ
  | s, [] => ([], s)
  | s, turn :: turns =>
    let (a, s) := step s turn
    let (rest, s) := play step s turns
    (⟨turn, a⟩ :: rest, s)

end Turn

open Turn (play)

/-- A lookup is a look at the ideal map, and there is nothing to remove. -/
noncomputable def Ideal.step (i : Ideal) : (turn : Turn) → turn.Answer × Ideal
  | .pass span => ((), i.pass span)
  | .call c => i.perform c
  | .look name => (i.bytes? name, i)
  | .purge _ => ((), i)
  | .contains name => ((i.bytes? name).isSome, i)
  | .size => (i.size, i)

/-- A memory, the time, and the removals that lookups have left to do, each with the time of its
lookup. -/
structure Shelf where
  now : Span
  memory : Memory
  overdue : List (Span × String)
  deriving DecidableEq, Repr

namespace Shelf

def empty (now : Span) : Shelf := ⟨now, .empty, []⟩

def look (s : Shelf) (name : String) : Option Bytes × Shelf :=
  match s.memory.look s.now name with
  | .live bytes => (some bytes, s)
  | .expired => (none, { s with overdue := (s.now, name) :: s.overdue })
  | .absent => (none, s)

/-- A removal takes place as of the time of its lookup. -/
def purge (s : Shelf) (number : Nat) : Shelf :=
  match s.overdue[number]? with
  | some (since, name) =>
    { s with memory := s.memory.purge since name, overdue := s.overdue.eraseIdx number }
  | none => s

def step (s : Shelf) : (turn : Turn) → turn.Answer × Shelf
  | .pass span => ((), { s with now := s.now + span })
  | .call c => let (a, memory) := s.memory.perform s.now c; (a, { s with memory })
  | .look name => s.look name
  | .purge number => ((), s.purge number)
  | .contains name => (s.memory.contains s.now name, s)
  | .size => (s.memory.size s.now, s)

end Shelf

namespace Memory

variable {m : Memory} {name : String} {e : Entry}

/-- No name has two entries. -/
def Distinct (m : Memory) : Prop := (m.entries.map (·.1)).Nodup

theorem Distinct.erase (distinct : m.Distinct) (key : String) : (m.erase key).Distinct :=
  (List.filter_sublist.map _).nodup distinct

theorem Distinct.insert (distinct : m.Distinct) (key : String) (e : Entry) :
    (m.insert key e).Distinct := by
  refine List.nodup_cons.mpr ⟨?_, distinct.erase key⟩
  simp [Memory.erase]

theorem Distinct.purge (distinct : m.Distinct) (now : Span) (key : String) :
    (m.purge now key).Distinct := by
  unfold Memory.purge
  split
  · split
    · exact distinct
    · exact distinct.erase key
  · exact distinct

theorem Distinct.perform (distinct : m.Distinct) (now : Span) (c : Call) :
    (m.perform now c).2.Distinct := by
  cases c with
  | get key =>
    simp only [Memory.perform, Memory.get]
    split
    · exact distinct
    · exact distinct.purge now key
    · exact distinct
  | set key value ttl => exact distinct.insert key _
  | delete key => exact distinct.erase key
  | setIfAbsent key token ttl =>
    simp only [Memory.perform, Memory.setIfAbsent]
    split
    · exact distinct
    · exact distinct.insert key _
  | deleteIfEquals key token =>
    simp only [Memory.perform, Memory.deleteIfEquals]
    split
    · split
      · exact distinct.erase key
      · exact distinct
    · exact distinct

private theorem Distinct.entry?_eq_some (distinct : m.Distinct) :
    m.entry? name = some e ↔ (name, e) ∈ m.entries := by
  obtain ⟨entries⟩ := m
  change entries.lookup name = some e ↔ (name, e) ∈ entries
  induction entries with
  | nil => simp
  | cons entry entries ih =>
    obtain ⟨first, kept⟩ := entry
    obtain ⟨fresh, distinct⟩ := List.nodup_cons.mp distinct
    have later := ih distinct
    by_cases same : name = first
    · subst same
      have other : (name, e) ∉ entries := fun member => fresh (List.mem_map.mpr ⟨_, member, rfl⟩)
      simp [other, eq_comm]
    · have different : (name == first) = false := beq_eq_false_iff_ne.mpr same
      simp [List.lookup_cons, different, same, later]

private theorem Distinct.size_eq (distinct : m.Distinct) (now : Span) :
    m.size now = {name | (m.view now name).isSome}.ncard := by
  have names : {name | (m.view now name).isSome} =
      ((m.entries.filter fun x => x.2.isLive now).map (·.1)).toFinset := by
    ext name
    simp [view, Option.isSome_iff_exists, live?_eq_some, distinct.entry?_eq_some, Entry.isLive]
  rw [names, Set.ncard_coe_finset,
    List.toFinset_card_of_nodup ((List.filter_sublist.map _).nodup distinct), List.length_map,
    size, List.countP_eq_length_filter]

end Memory

def Ideal.Item.entry (x : Item) : Entry := ⟨x.bytes, x.since + x.ttl⟩

/-- Whether a shelf shows an ideal map: what is alive in its memory is what the map has, and
removals are only left to do as of times that have been. -/
structure Shelf.Shows (s : Shelf) (i : Ideal) : Prop where
  now : i.now = s.now
  items : ∀ name, (i.items name).map Ideal.Item.entry = s.memory.live? s.now name
  distinct : s.memory.Distinct
  overdue : ∀ x ∈ s.overdue, x.1 ≤ s.now

namespace Shelf.Shows

variable {s : Shelf} {i : Ideal}

theorem empty (now : Span) : (Shelf.empty now).Shows (.empty now) :=
  ⟨rfl, fun _ => rfl, List.nodup_nil, nofun⟩

theorem bytes?_eq (shows : s.Shows i) (name : String) :
    i.bytes? name = s.memory.view s.now name := by
  rw [Memory.view, ← shows.items, Option.map_map]
  rfl

/-- Whatever an ideal map has that is shown has not outlived its time. -/
theorem settled (shows : s.Shows i) (name : String) :
    (i.items name).filter (fun x => i.now < x.since + x.ttl) = i.items name := by
  ext x
  rw [Option.filter_eq_some_iff, and_iff_left_iff_imp]
  intro kept
  have shown := shows.items name
  rw [kept, Option.map_some] at shown
  obtain ⟨_, lives⟩ := Memory.live?_eq_some.mp shown.symm
  rw [shows.now]
  exact decide_eq_true lives

theorem pass (shows : s.Shows i) (span : Span) :
    Shows { s with now := s.now + span } (i.pass span) where
  now := congrArg (· + span) shows.now
  items name := by
    rw [Memory.live?_add, ← shows.items, Option.filter_map, ← shows.now]
    rfl
  distinct := shows.distinct
  overdue x left := Nat.le_trans (shows.overdue x left) (Nat.le_add_right ..)

theorem put (shows : s.Shows i) (name : String) (bytes : Bytes) (ttl : Span) :
    Shows { s with memory := s.memory.set s.now name bytes ttl } (i.put name bytes ttl) where
  now := shows.now
  items other := by
    rw [Memory.set, Memory.live?_insert]
    by_cases same : other = name
    · subst same
      simp only [Ideal.put, Ideal.settle, Function.update_self, shows.now, ↓reduceIte]
      exact (Option.filter_map (x := some (Ideal.Item.mk bytes s.now ttl))
        (f := Ideal.Item.entry) (p := (·.isLive s.now))).symm
    · simp only [Ideal.put, Ideal.settle, Function.update_of_ne same, if_neg same]
      rw [← shows.items, shows.settled]
  distinct := shows.distinct.insert _ _
  overdue := shows.overdue

theorem drop (shows : s.Shows i) (name : String) :
    Shows { s with memory := s.memory.erase name } (i.drop name) where
  now := shows.now
  items other := by
    rw [Memory.live?_erase]
    by_cases same : other = name
    · subst same
      simp only [Ideal.drop, Function.update_self, ↓reduceIte, Option.map_none]
    · simp only [Ideal.drop, Function.update_of_ne same, if_neg same, shows.items]
  distinct := shows.distinct.erase name
  overdue := shows.overdue

/-- A call is answered by the memory as by the ideal map. -/
theorem perform (shows : s.Shows i) (c : Call) :
    (s.memory.perform s.now c).1 = (i.perform c).1 ∧
      Shows { s with memory := (s.memory.perform s.now c).2 } (i.perform c).2 := by
  cases c with
  | get name =>
    refine ⟨(Memory.get_eq ..).trans (shows.bytes?_eq name).symm, shows.now, fun other => ?_,
      shows.distinct.perform s.now _, shows.overdue⟩
    exact (shows.items other).trans (Memory.live?_get ..).symm
  | set name value ttl => exact ⟨rfl, shows.put name value ttl⟩
  | delete name => exact ⟨rfl, shows.drop name⟩
  | setIfAbsent name token ttl =>
    simp only [Memory.perform, Ideal.perform, Memory.setIfAbsent_eq, shows.bytes?_eq]
    split
    · exact ⟨rfl, shows⟩
    · exact ⟨rfl, shows.put name (bytes token) ttl⟩
  | deleteIfEquals name token =>
    simp only [Memory.perform, Ideal.perform, Memory.deleteIfEquals_eq, shows.bytes?_eq]
    split
    · exact ⟨rfl, shows.drop name⟩
    · exact ⟨rfl, shows⟩

theorem look (shows : s.Shows i) (name : String) :
    (s.look name).1 = i.bytes? name ∧ (s.look name).2.Shows i := by
  rw [shows.bytes?_eq, ← Memory.get_eq]
  cases seen : s.memory.look s.now name with
  | live bytes =>
    simp only [Shelf.look, Memory.get, seen]
    exact ⟨trivial, shows⟩
  | expired =>
    simp only [Shelf.look, Memory.get, seen]
    exact ⟨trivial, shows.now, shows.items, shows.distinct,
      List.forall_mem_cons.mpr ⟨Nat.le_refl _, shows.overdue⟩⟩
  | absent =>
    simp only [Shelf.look, Memory.get, seen]
    exact ⟨trivial, shows⟩

/-- A removal that was left to do cannot be told. -/
theorem purge (shows : s.Shows i) (number : Nat) : (s.purge number).Shows i := by
  unfold Shelf.purge
  split
  · next since name left =>
    have earlier := shows.overdue _ (List.mem_of_getElem? left)
    refine ⟨shows.now, fun other => ?_, shows.distinct.purge since name,
      fun x rest => shows.overdue x (List.mem_of_mem_eraseIdx rest)⟩
    exact (shows.items other).trans (Memory.live?_purge earlier ..).symm
  · exact shows

private theorem size_eq (shows : s.Shows i) : s.memory.size s.now = i.size := by
  rw [shows.distinct.size_eq, Ideal.size]
  simp only [shows.bytes?_eq]

theorem step (shows : s.Shows i) (turn : Turn) :
    (s.step turn).1 = (i.step turn).1 ∧ (s.step turn).2.Shows (i.step turn).2 := by
  cases turn with
  | pass span => exact ⟨rfl, shows.pass span⟩
  | call c => exact shows.perform c
  | look name => exact shows.look name
  | purge number => exact ⟨rfl, shows.purge number⟩
  | contains name =>
    refine ⟨?_, shows⟩
    simp only [Shelf.step, Ideal.step, Memory.contains_eq, shows.bytes?_eq]
  | size => exact ⟨shows.size_eq, shows⟩

theorem play (shows : s.Shows i) (turns : List Turn) :
    (play Shelf.step s turns).1 = (play Ideal.step i turns).1 ∧
      (play Shelf.step s turns).2.Shows (play Ideal.step i turns).2 := by
  induction turns generalizing s i with
  | nil => exact ⟨rfl, shows⟩
  | cons turn turns ih =>
    obtain ⟨same, shown⟩ := shows.step turn
    obtain ⟨rest, last⟩ := ih shown
    exact ⟨by simp only [Turn.play, same, rest], last⟩

end Shelf.Shows

/-- Removals change nothing of an ideal map. -/
theorem Ideal.play_filter (i : Ideal) (turns : List Turn) :
    (play Ideal.step i (turns.filter (!·.isPurge))).1 =
      (play Ideal.step i turns).1.filter (!·.1.isPurge) := by
  induction turns generalizing i with
  | nil => rfl
  | cons turn turns ih =>
    cases turn with
    | purge number => exact ih i
    | _ => exact congrArg (List.cons _) (ih _)

/-- Whatever happens to a memory that was empty at some time, every turn is answered as by the ideal
map, what is alive in the end is what the ideal map has, and nobody can tell when, or whether, what
a lookup found expired is removed. No removal that is made by a lookup, or was left to do by one,
takes an entry that is alive. Times to live have no bound here, as spans have none. -/
theorem memory_refines_ideal (start : Span) (turns : List Turn) :
    let (told, s) := play Shelf.step (.empty start) turns
    let (answers, i) := play Ideal.step (.empty start) turns
    told = answers ∧
    (∀ name, s.memory.live? s.now name = (i.items name).map Ideal.Item.entry) ∧
    (play Shelf.step (.empty start) (turns.filter (!·.isPurge))).1 =
      told.filter (!·.1.isPurge) ∧
    ∀ since key, (since, key) ∈ s.overdue ∨ since = s.now →
      ∀ name e, s.memory.entry? name = some e → s.now < e.expiresAt →
        Memory.entry? (s.memory.purge since key) name = some e := by
  obtain ⟨same, shown⟩ := (Shelf.Shows.empty start).play turns
  refine ⟨same, fun name => (shown.items name).symm, ?_, ?_⟩
  · rw [((Shelf.Shows.empty start).play _).1, same, Ideal.play_filter]
  · intro since key left name e present lives
    have earlier : since ≤ (play Shelf.step (.empty start) turns).2.now :=
      left.elim (shown.overdue _) Nat.le_of_eq
    exact Memory.entry?_purge_of_live present (Nat.lt_of_le_of_lt earlier lives) key

/-- A lookup finds an entry at the end of its life; before it removes the entry, the key is set
again, and the new entry stays. -/
theorem late_removal_spares_fresh_entry :
    let turns : List Turn :=
      [.call (.set "k" [1] 5), .pass 5, .look "k", .call (.set "k" [2] 5), .pass 4]
    let s := (play Shelf.step (.empty 0) turns).2
    (play Shelf.step (.empty 0) turns).1 = (play Ideal.step (.empty 0) turns).1 ∧
      (5, "k") ∈ s.overdue ∧ Memory.entry? (s.memory.purge 5 "k") "k" = some ⟨[2], 10⟩ := by
  intro turns s
  obtain ⟨same, -, -, spared⟩ := memory_refines_ideal 0 turns
  have left : (5, "k") ∈ s.overdue := by decide
  exact ⟨same, left, spared 5 "k" (.inl left) "k" ⟨[2], 10⟩ (by decide) (by decide)⟩

end ClipFeed.Cache
