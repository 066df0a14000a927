import ClipFeed.Proofs.Cache.Gateway
import ClipFeed.Proofs.Cache.Key
import ClipFeed.Proofs.Cache.Memory
import ClipFeed.Proofs.Dialogue.Pool
import Mathlib.Data.Sigma.Basic
/-!
Callers that share one memory and one store. Every call is answered in one step, callers take turns
in any order and time passes between their steps. A history keeps who was told what, and bytes found
in the memory go back to the last step that put them there.
-/

namespace ClipFeed

open Text Cache

instance : (call : Cache.Call) → DecidableEq call.Answer
  | .get _ => inferInstanceAs (DecidableEq (Option Bytes))
  | .set .. | .delete _ => inferInstanceAs (DecidableEq Unit)
  | .setIfAbsent .. | .deleteIfEquals .. => inferInstanceAs (DecidableEq Bool)

instance : (call : Store.Call) → DecidableEq call.Answer
  | .listLatest _ | .listPopular _ | .listFollowing .. => inferInstanceAs (DecidableEq (List Video))
  | .likedAmong .. => inferInstanceAs (DecidableEq (List Int64))
  | .find _ => inferInstanceAs (DecidableEq (Option Video))
  | .create _ => inferInstanceAs (DecidableEq Video)
  | .delete _ | .like .. | .unlike .. => inferInstanceAs (DecidableEq Unit)

instance : (q : Effect) → DecidableEq q.Answer
  | .cache _ call => inferInstanceAs (DecidableEq (Reply call.Answer))
  | .store call => inferInstanceAs (DecidableEq (Except Store.Fault call.Answer))
  | .probe => inferInstanceAs (DecidableEq (Except Sql.Failure Unit))
  | .lockToken | .requestId => inferInstanceAs (DecidableEq String)
  | .sleep _ | .hold _ | .unhold | .count _ | .log _ | .note _ => inferInstanceAs (DecidableEq Unit)

inductive Event (ι : Type) where
  | begins (caller : ι)
  | tells (caller : ι) (exchange : Exchange)
  deriving DecidableEq

namespace Event

variable {ι : Type}

/-- Whether an event stores or removes the entry of a name. -/
def Touches (name : String) : Event ι → Prop
  | .tells _ ⟨.cache _ (.set other ..), _⟩ => other = name
  | .tells _ ⟨.cache _ (.delete other), _⟩ => other = name
  | _ => False

def toldTo [DecidableEq ι] (i : ι) : Event ι → Option Exchange
  | .begins _ => none
  | .tells j x => if j = i then some x else none

private theorem toldTo_eq_some [DecidableEq ι] {i : ι} {event : Event ι} {x : Exchange} :
    event.toldTo i = some x ↔ event = .tells i x := by
  cases event with
  | begins j => simp [toldTo]
  | tells j y =>
    by_cases same : j = i
    · simp [toldTo, same]
    · simp [toldTo, same]

end Event

abbrev History (ι : Type) := List (Event ι)

namespace History

variable {ι : Type} {history : History ι} {event : Event ι} {name : String} {bs : Bytes} {k n : Nat}

theorem getElem?_concat {e : Event ι} : (history ++ [event])[k]? = some e ↔
    history[k]? = some e ∨ k = history.length ∧ event = e := by
  rcases Nat.lt_trichotomy k history.length with before | rfl | behind
  · rw [List.getElem?_append_left before]
    simp [Nat.ne_of_lt before]
  · simp
  · rw [List.getElem?_eq_none (by simp; omega), List.getElem?_eq_none (by omega)]
    simp [Nat.ne_of_gt behind]

theorem getElem?_of_prefix {earlier : History ι} (grown : earlier <+: history)
    (present : earlier[k]? = some event) : history[k]? = some event := by
  obtain ⟨rest, rfl⟩ := grown
  rw [List.getElem?_append_left (List.getElem?_eq_some_iff.mp present).1, present]

/-- A caller puts bytes under a name in a step. -/
def Fills (history : History ι) (j : ι) (name : String) (bs : Bytes) (f : Nat) : Prop :=
  ∃ limit ttl, history[f]? = some (.tells j ⟨.cache limit (.set name bs ttl), .answered ()⟩)

/-- The entry of a name is left alone between two steps. -/
def Untouched (history : History ι) (name : String) (first last : Nat) : Prop :=
  ∀ k event, first < k → k < last → history[k]? = some event → ¬ event.Touches name

/-- Bytes were put under a name before a step and have not been replaced by then. -/
def Stands (history : History ι) (name : String) (bs : Bytes) (last : Nat) : Prop :=
  ∃ f j, f < last ∧ history.Fills j name bs f ∧ history.Untouched name f last

private theorem Stands.concat (stands : history.Stands name bs n) (within : n ≤ history.length)
    (event : Event ι) : (history ++ [event]).Stands name bs n := by
  obtain ⟨f, j, before, ⟨limit, ttl, filled⟩, untouched⟩ := stands
  refine ⟨f, j, before, ⟨limit, ttl, getElem?_concat.mpr (.inl filled)⟩, ?_⟩
  intro k other later earlier present
  rcases getElem?_concat.mp present with present | ⟨rfl, -⟩
  · exact untouched k other later earlier present
  · omega

theorem Stands.past (stands : history.Stands name bs history.length) (idle : ¬ event.Touches name) :
    (history ++ [event]).Stands name bs (history ++ [event]).length := by
  obtain ⟨f, j, before, ⟨limit, ttl, filled⟩, untouched⟩ := stands
  refine ⟨f, j, ?_, ⟨limit, ttl, getElem?_concat.mpr (.inl filled)⟩, ?_⟩
  · simp
    omega
  · intro k other later _ present
    rcases getElem?_concat.mp present with present | ⟨rfl, rfl⟩
    · exact untouched k other later (List.getElem?_eq_some_iff.mp present).1 present
    · exact idle

private theorem stands_of_fill {j : ι} {limit ttl : Span} :
    let filled := history ++ [.tells j ⟨.cache limit (.set name bs ttl), .answered ()⟩]
    filled.Stands name bs filled.length := by
  refine ⟨history.length, j, by simp, ⟨limit, ttl, by simp⟩, ?_⟩
  intro k other later earlier present
  simp only [List.length_append, List.length_singleton] at earlier
  omega

variable [DecidableEq ι]

/-- What a caller was told, in order. -/
def diary (history : History ι) (i : ι) : List Exchange :=
  history.filterMap (Event.toldTo i)

theorem mem_diary {i : ι} {x : Exchange} : x ∈ history.diary i ↔ .tells i x ∈ history := by
  simp only [diary, List.mem_filterMap, Event.toldTo_eq_some]
  exact ⟨fun ⟨_, member, same⟩ => same ▸ member, fun member => ⟨_, member, rfl⟩⟩

theorem mem_diary_take {i : ι} {x : Exchange} :
    x ∈ diary (history.take k) i ↔ ∃ n < k, history[n]? = some (.tells i x) := by
  rw [mem_diary, List.mem_iff_getElem?]
  apply exists_congr
  intro n
  rw [List.getElem?_take]
  split
  · simp [*]
  · simp [*]

/-- What a caller was told at the end of a part of its diary, it was told after the rest of it. -/
theorem exists_of_diary_prefix {history : History ι} {i : ι} {part : List Exchange} {x y : Exchange}
    (prefixed : part ++ [y] <+: history.diary i) (member : x ∈ part) :
    ∃ c e : Nat, c < e ∧ history[c]? = some (.tells i x) ∧ history[e]? = some (.tells i y) := by
  obtain ⟨rest, joined⟩ := prefixed
  rw [List.append_assoc, eq_comm, diary, List.filterMap_eq_append_iff] at joined
  obtain ⟨front, back, rfl, rfl, split⟩ := joined
  obtain ⟨skipped, event, tail, rfl, -, told, -⟩ := List.filterMap_eq_cons_iff.mp split
  obtain rfl := Event.toldTo_eq_some.mp told
  obtain ⟨c, present⟩ := List.mem_iff_getElem?.mp (mem_diary.mp member)
  have within := (List.getElem?_eq_some_iff.mp present).1
  refine ⟨c, front.length + skipped.length, by omega, ?_, ?_⟩
  · rw [List.getElem?_append_left within, present]
  · rw [← List.append_assoc, List.getElem?_append_right (by simp)]
    simp

private theorem diary_concat_begins (history : History ι) (i j : ι) :
    diary (history ++ [.begins j]) i = history.diary i := by
  simp [diary, Event.toldTo]

private theorem diary_concat_self (history : History ι) (i : ι) (x : Exchange) :
    diary (history ++ [.tells i x]) i = history.diary i ++ [x] := by
  simp [diary, Event.toldTo]

private theorem diary_concat_of_ne (history : History ι) {i j : ι} (other : i ≠ j) (x : Exchange) :
    diary (history ++ [.tells j x]) i = history.diary i := by
  simp [diary, Event.toldTo, Ne.symm other]

end History

/-- A memory and a store, the time and what happened so far. -/
structure Traffic (ι σ : Type) where
  now : Span
  cache : Memory
  store : σ
  history : History ι

/-- Which answers a store may give, and what is then stored. -/
abbrev Answering (σ : Type) :=
  σ → (call : Store.Call) → Except Store.Fault call.Answer → σ → Prop

namespace Traffic

variable {ι σ : Type} [DecidableEq ι]

/-- Whether a question may be answered this way, with the memory and the store that this leaves. -/
def Answers (store : Answering σ) (s : Traffic ι σ) : (q : Effect) → q.Answer → Memory → σ → Prop
  | .cache _ call, reply, cache, stored =>
    reply = .answered (s.cache.perform s.now call).1 ∧ cache = (s.cache.perform s.now call).2 ∧
      stored = s.store
  | .store call, a, cache, stored => store s.store call a stored ∧ cache = s.cache
  | _, _, cache, stored => cache = s.cache ∧ stored = s.store

/-- Callers are told nothing before they begin, and each begins once. -/
def surroundings (store : Answering σ) : Surroundings ι Effect Effect.Answer (Traffic ι σ) where
  answers s i q a s' := .begins i ∈ s.history ∧ s.Answers store q a s'.cache s'.store ∧
    s'.now = s.now ∧ s'.history = s.history ++ [.tells i ⟨q, a⟩]
  drifts s s' := (∃ later, s.now ≤ later ∧ s' = { s with now := later }) ∨
    ∃ i, .begins i ∉ s.history ∧ s' = { s with history := s.history ++ [.begins i] }

/-- Callers that use a name for one thing only and fill entries as their diaries permit. -/
def ledger (mayFill : List Exchange → String → Bytes → Prop) :
    Contract Effect Effect.Answer (List Exchange) where
  asks t
    | .cache _ (.set name bs _) => mayFill t name bs
    | .cache _ (.setIfAbsent name ..) | .cache _ (.deleteIfEquals name _) =>
      ∃ key : Key, name = key.lockName
    | _ => True
  hears _
    | .cache .., reply => ∃ a, reply = .answered a
    | _, _ => True
  write t q a := t ++ [⟨q, a⟩]

/-- What a history tells of itself and of the memory behind it. -/
structure Consistent (mayFill : List Exchange → String → Bytes → Prop) (s : Traffic ι σ) :
    Prop where
  begun : ∀ {k i x}, s.history[k]? = some (.tells i x) → .begins i ∈ s.history.take k
  allowed : ∀ {k i x}, s.history[k]? = some (.tells i x) →
    (ledger mayFill).asks (History.diary (s.history.take k) i) x.1
  kept : ∀ {key : Key} {e}, s.cache.entry? key.name = some e →
    s.history.Stands key.name e.bytes s.history.length
  found : ∀ {k i limit} {key : Key} {bs},
    s.history[k]? = some (.tells i ⟨.cache limit (.get key.name), .answered (some bs)⟩) →
      s.history.Stands key.name bs k

variable {mayFill : List Exchange → String → Bytes → Prop} {store : Answering σ}

theorem consistent_empty (now : Span) (stored : σ) :
    Consistent mayFill (⟨now, .empty, stored, []⟩ : Traffic ι σ) where
  begun := nofun
  allowed := nofun
  kept := nofun
  found := nofun

theorem kept_of_answers {s s' : Traffic ι σ} {i : ι} {q : Effect} {a : q.Answer}
    (consistent : Consistent mayFill s) {t : List Exchange} (may : (ledger mayFill).asks t q)
    (answered : s.Answers store q a s'.cache s'.store)
    (noted : s'.history = s.history ++ [.tells i ⟨q, a⟩]) {key : Key} {e : Entry}
    (present : Memory.entry? s'.cache key.name = some e) :
    s'.history.Stands key.name e.bytes s'.history.length := by
  rw [noted]
  cases q with
  | cache limit call =>
    obtain ⟨rfl, cache, -⟩ := answered
    rw [cache] at present
    cases call with
    | get other => exact (consistent.kept (Memory.entry?_behind_get present)).past id
    | set other value ttl =>
      by_cases same : key.name = other
      · subst same
        obtain rfl := Option.some.inj ((Memory.entry?_insert ..).symm.trans present)
        exact History.stands_of_fill
      · have before := (Memory.entry?_insert_of_ne same ..).symm.trans present
        exact (consistent.kept before).past fun touched => same touched.symm
    | delete other =>
      by_cases same : key.name = other
      · subst same
        cases (Memory.entry?_erase ..).symm.trans present
      · have before := (Memory.entry?_erase_of_ne same _).symm.trans present
        exact (consistent.kept before).past fun touched => same touched.symm
    | setIfAbsent other token ttl =>
      obtain ⟨lock, rfl⟩ := may
      rw [Memory.entry?_perform_of_ne _ (Key.lockName_ne_name lock key).symm] at present
      exact (consistent.kept present).past id
    | deleteIfEquals other token =>
      obtain ⟨lock, rfl⟩ := may
      rw [Memory.entry?_perform_of_ne _ (Key.lockName_ne_name lock key).symm] at present
      exact (consistent.kept present).past id
  | store call =>
    obtain ⟨-, cache⟩ := answered
    rw [cache] at present
    exact (consistent.kept present).past id
  | _ =>
    obtain ⟨cache, -⟩ := answered
    rw [cache] at present
    exact (consistent.kept present).past id

theorem stands_of_get {s : Traffic ι σ} (consistent : Consistent mayFill s) {key : Key}
    {bs : Bytes} {limit : Span} {cache : Memory} {stored : σ}
    (answered : s.Answers store (.cache limit (.get key.name)) (.answered (some bs)) cache stored) :
    s.history.Stands key.name bs s.history.length := by
  obtain ⟨reply, -, -⟩ := answered
  obtain ⟨e, present, rfl, -⟩ := Memory.entry?_of_get (Reply.answered.inj reply).symm
  exact consistent.kept present

omit [DecidableEq ι] in
private theorem heard_of_answers
    {s : Traffic ι σ} {q : Effect} {a : q.Answer} {cache : Memory} {stored : σ}
    (answered : s.Answers store q a cache stored) (t : List Exchange) :
    (ledger mayFill).hears t q a := by
  cases q with
  | cache limit call => exact ⟨_, answered.1⟩
  | _ => trivial

/-- One answer leaves a consistent history consistent. -/
theorem Consistent.answer {s s' : Traffic ι σ} {i : ι} {q : Effect} {a : q.Answer}
    (consistent : Consistent mayFill s) (may : (ledger mayFill).asks (s.history.diary i) q)
    (heard : (surroundings store).answers s i q a s') : Consistent mayFill s' := by
  obtain ⟨begun, answered, -, noted⟩ := heard
  have within {k : Nat} {e : Event ι} (present : s.history[k]? = some e) : k < s.history.length :=
    (List.getElem?_eq_some_iff.mp present).1
  refine ⟨?_, ?_, fun present => kept_of_answers consistent may answered noted present, ?_⟩
  · intro k j x told
    rw [noted] at told ⊢
    rcases History.getElem?_concat.mp told with told | ⟨rfl, same⟩
    · rw [List.take_append_of_le_length (Nat.le_of_lt (within told))]
      exact consistent.begun told
    · cases same
      simpa using begun
  · intro k j x told
    rw [noted] at told ⊢
    rcases History.getElem?_concat.mp told with told | ⟨rfl, same⟩
    · rw [List.take_append_of_le_length (Nat.le_of_lt (within told))]
      exact consistent.allowed told
    · cases same
      simpa using may
  · intro k j limit key bs told
    rw [noted] at told ⊢
    rcases History.getElem?_concat.mp told with told | ⟨rfl, same⟩
    · exact (consistent.found told).concat (Nat.le_of_lt (within told)) _
    · cases same
      exact (stands_of_get consistent answered).concat (Nat.le_refl _) _

/-- So does the passing of time and the beginning of a caller. -/
theorem Consistent.drift {s s' : Traffic ι σ} (consistent : Consistent mayFill s)
    (moved : (surroundings store).drifts s s') : Consistent mayFill s' := by
  rcases moved with ⟨later, -, rfl⟩ | ⟨i, -, rfl⟩
  · exact { consistent with }
  · have told {k : Nat} {j : ι} {x : Exchange}
        (present : (s.history ++ [Event.begins i])[k]? = some (.tells j x)) :
        s.history[k]? = some (.tells j x) ∧
          (s.history ++ [Event.begins i]).take k = s.history.take k := by
      rcases History.getElem?_concat.mp present with present | ⟨-, same⟩
      · have within := (List.getElem?_eq_some_iff.mp present).1
        exact ⟨present, List.take_append_of_le_length (Nat.le_of_lt within)⟩
      · cases same
    refine ⟨?_, ?_, fun present => (consistent.kept present).past id, ?_⟩
    · intro k j x present
      obtain ⟨before, same⟩ := told present
      exact same ▸ consistent.begun before
    · intro k j x present
      obtain ⟨before, same⟩ := told present
      exact same ▸ consistent.allowed before
    · intro k j limit key bs present
      obtain ⟨before, -⟩ := told present
      have within := (List.getElem?_eq_some_iff.mp before).1
      exact (consistent.found before).concat (Nat.le_of_lt within) _

/-- Callers that keep to the ledger can rely on it. -/
theorem keeps_ledger : Pool.Keeps (surroundings store) (ledger mayFill)
    (fun (s : Traffic ι σ) i => s.history.diary i) (Consistent mayFill) where
  answer := by
    intro s s' i q a consistent may heard
    refine ⟨heard_of_answers heard.2.1 _, consistent.answer may heard, ?_, fun j other => ?_⟩
    · rw [heard.2.2.2, History.diary_concat_self]
      rfl
    · rw [heard.2.2.2, History.diary_concat_of_ne _ other]
  drift := by
    intro s s' consistent moved
    refine ⟨consistent.drift moved, ?_⟩
    intro i
    rcases moved with ⟨later, -, rfl⟩ | ⟨j, -, rfl⟩
    · rfl
    · exact History.diary_concat_begins ..

private theorem history_prefix_of_step
    {α : ι → Type} {p p' : Pool ι Effect Effect.Answer α (Traffic ι σ)}
    (step : Pool.Step (surroundings store) p p') : p.shared.history <+: p'.shared.history := by
  cases step with
  | answer i asking a heard => exact ⟨_, heard.2.2.2.symm⟩
  | drift moved =>
    rcases moved with ⟨later, -, rfl⟩ | ⟨i, -, rfl⟩
    · exact List.prefix_rfl
    · exact List.prefix_append ..

/-- Histories only grow. -/
theorem history_prefix {α : ι → Type} {p p' : Pool ι Effect Effect.Answer α (Traffic ι σ)}
    (reached : Pool.Reaches (surroundings store) p p') :
    p.shared.history <+: p'.shared.history := by
  induction reached with
  | refl => exact List.prefix_rfl
  | tail _ step ih => exact ih.trans (history_prefix_of_step step)

/-- A caller that has not begun yet is told nothing but later. -/
theorem Consistent.later {s : Traffic ι σ} (consistent : Consistent mayFill s) {i : ι}
    {earlier : History ι} (grown : earlier <+: s.history) (waits : .begins i ∉ earlier) {k : Nat}
    {x : Exchange} (told : s.history[k]? = some (.tells i x)) : earlier.length ≤ k := by
  refine Nat.le_of_not_lt fun before => waits ?_
  have begun := consistent.begun told
  obtain ⟨rest, joined⟩ := grown
  rw [← joined, List.take_append_of_le_length (Nat.le_of_lt before)] at begun
  exact List.mem_of_mem_take begun

section

variable (perform : σ → (call : Store.Call) → Except Store.Fault call.Answer × σ)

def serve (s : Traffic ι σ) : (q : Effect) → q.Answer × Memory × σ
  | .cache _ call =>
    let (a, cache) := s.cache.perform s.now call
    (.answered a, cache, s.store)
  | .store call =>
    let (a, stored) := perform s.store call
    (a, s.cache, stored)
  | .probe => (.ok (), s.cache, s.store)
  | .sleep _ => ((), s.cache, s.store)
  | .lockToken => (toString s.history.length, s.cache, s.store)
  | .requestId => (toString s.history.length, s.cache, s.store)
  | .hold _ => ((), s.cache, s.store)
  | .unhold => ((), s.cache, s.store)
  | .count _ => ((), s.cache, s.store)
  | .log _ => ((), s.cache, s.store)
  | .note _ => ((), s.cache, s.store)

def reply (s : Traffic ι σ) (i : ι) (q : Effect) : q.Answer × Traffic ι σ :=
  let (a, cache, stored) := s.serve perform q
  (a, ⟨s.now, cache, stored, s.history ++ [.tells i ⟨q, a⟩]⟩)

def answering : Answering σ := fun stored call a stored' => perform stored call = (a, stored')

omit [DecidableEq ι] in
theorem answers_serve (s : Traffic ι σ) (q : Effect) :
    s.Answers (answering perform) q (s.serve perform q).1 (s.serve perform q).2.1
      (s.serve perform q).2.2 := by
  cases q with
  | cache limit call => exact ⟨rfl, rfl, rfl⟩
  | store call => exact ⟨rfl, rfl⟩
  | _ => exact ⟨rfl, rfl⟩

variable {α : ι → Type}

def turn (p : Pool ι Effect Effect.Answer α (Traffic ι σ)) (i : ι) :
    Pool ι Effect Effect.Answer α (Traffic ι σ) :=
  if .begins i ∈ p.shared.history then p.play (reply perform) i
  else { p with shared := { p.shared with history := p.shared.history ++ [.begins i] } }

private theorem reaches_turn (p : Pool ι Effect Effect.Answer α (Traffic ι σ)) (i : ι) :
    Pool.Reaches (surroundings (answering perform)) p (turn perform p i) := by
  unfold turn
  split
  · next begun =>
    exact Pool.reaches_play fun q =>
      ⟨begun, answers_serve perform p.shared q, rfl, rfl⟩
  · next waits =>
    exact .single (.drift (.inr ⟨i, waits, rfl⟩))

theorem reaches_turns (p : Pool ι Effect Effect.Answer α (Traffic ι σ)) (order : List ι) :
    Pool.Reaches (surroundings (answering perform)) p (order.foldl (turn perform) p) := by
  induction order generalizing p with
  | nil => exact .refl
  | cons i order ih => exact (reaches_turn perform p i).trans (ih _)

end

end Traffic

end ClipFeed
