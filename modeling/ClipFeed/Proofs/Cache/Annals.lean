import ClipFeed.Proofs.Cache.Locking
import ClipFeed.Proofs.Cache.Memory
import ClipFeed.Proofs.Cache.Traffic
import ClipFeed.Proofs.Dialogue.Transcript
/-!
Annals: what callers around one memory were told and when. Bytes that are found under the name of a
key were put there by the last call that replaced or removed its entry, and not longer ago than they
were meant to live.
-/

namespace ClipFeed

open Text Cache

structure Notice (ι : Type) where
  time : Span
  caller : ι
  exchange : Exchange

/-- Whether a notice is of a call that replaced or removed the entry of a name. -/
def Notice.Touches {ι : Type} (name : String) (n : Notice ι) : Prop :=
  match n.exchange with
  | ⟨.cache _ call, _⟩ => Memory.Touches name call
  | _ => False

/-- Notices, the latest first. -/
abbrev Annals (ι : Type) := List (Notice ι)

namespace Annals

variable {ι : Type} {past : Annals ι} {name : String} {bs : Bytes} {expiry : Span}

/-- The last call on the entry of a name put bytes there, to live until some time. -/
def Stands (past : Annals ι) (name : String) (bs : Bytes) (expiry : Span) : Prop :=
  ∃ later time caller limit ttl earlier,
    past = later ++ ⟨time, caller, .cache limit (.set name bs ttl), .answered ()⟩ :: earlier ∧
      time + ttl = expiry ∧ ∀ n ∈ later, ¬ n.Touches name

theorem Stands.cons (stands : Stands past name bs expiry) {n : Notice ι}
    (idle : ¬ n.Touches name) : Stands (n :: past) name bs expiry := by
  obtain ⟨later, time, caller, limit, ttl, earlier, rfl, lives, untouched⟩ := stands
  refine ⟨n :: later, time, caller, limit, ttl, earlier, rfl, lives, ?_⟩
  intro m member
  rcases List.mem_cons.mp member with rfl | member
  · exact idle
  · exact untouched m member

private theorem stands_of_set (past : Annals ι) (name : String) (bs : Bytes) (time limit ttl : Span)
    (caller : ι) :
    Stands (⟨time, caller, .cache limit (.set name bs ttl), .answered ()⟩ :: past) name bs
      (time + ttl) :=
  ⟨[], time, caller, limit, ttl, past, rfl, rfl, nofun⟩

def toldTo [DecidableEq ι] (i : ι) (n : Notice ι) : Option Exchange :=
  if n.caller = i then some n.exchange else none

/-- What a caller was told, in order. -/
def diary [DecidableEq ι] (past : Annals ι) (i : ι) : List Exchange :=
  past.reverse.filterMap (toldTo i)

variable [DecidableEq ι]

private theorem diary_cons_self (past : Annals ι) (time : Span) (i : ι) (x : Exchange) :
    diary (⟨time, i, x⟩ :: past) i = past.diary i ++ [x] := by
  simp [diary, toldTo]

private theorem diary_cons_of_ne
    (past : Annals ι) (time : Span) {i j : ι} (other : j ≠ i) (x : Exchange) :
    diary (⟨time, j, x⟩ :: past) i = past.diary i := by
  simp [diary, toldTo, other]

theorem mem_diary {i : ι} {x : Exchange} :
    x ∈ past.diary i ↔ ∃ time, ⟨time, i, x⟩ ∈ past := by
  simp only [diary, List.mem_filterMap, List.mem_reverse, toldTo]
  constructor
  · rintro ⟨⟨time, caller, exchange⟩, member, told⟩
    split at told
    · next same =>
      cases told
      cases same
      exact ⟨time, member⟩
    · cases told
  · rintro ⟨time, member⟩
    exact ⟨_, member, if_pos rfl⟩

end Annals

/-- A memory and a store, the time and what callers were told so far. -/
structure Scene (ι σ : Type) where
  now : Span
  cache : Memory
  stored : σ
  past : Annals ι

namespace Scene

variable {ι σ : Type}

/-- What callers may do: each fills entries as it is permitted by its own diary, and tokens are
stored under the names of locks only. -/
def journal (mayFill : ι → List Exchange → String → Bytes → Prop) :
    Contract Effect Effect.Answer (ι × List Exchange) where
  asks t
    | .cache _ (.set name bs _) => mayFill t.1 t.2 name bs
    | .cache _ (.setIfAbsent name ..) => NamesLock name
    | _ => True
  hears _ _ _ := True
  write t q a := (t.1, t.2 ++ [⟨q, a⟩])

theorem journal_writeAll (mayFill : ι → List Exchange → String → Bytes → Prop)
    (t : ι × List Exchange) (xs : List Exchange) :
    (journal mayFill).writeAll t xs = (t.1, t.2 ++ xs) := by
  induction xs generalizing t with
  | nil => simp [Contract.writeAll]
  | cons x xs ih =>
    calc (journal mayFill).writeAll t (x :: xs)
      _ = (journal mayFill).writeAll (t.1, t.2 ++ [x]) xs := rfl
      _ = (t.1, t.2 ++ [x] ++ xs) := ih _
      _ = (t.1, t.2 ++ x :: xs) := by simp

def traffic (s : Scene ι σ) : Traffic ι σ :=
  ⟨s.now, s.cache, s.stored, []⟩

/-- Callers around a memory. Between their steps time passes and the store may change. -/
def surroundings (store : Answering σ) : Surroundings ι Effect Effect.Answer (Scene ι σ) where
  answers s i q a s' := s.traffic.Answers store q a s'.cache s'.stored ∧ s'.now = s.now ∧
    s'.past = ⟨s.now, i, q, a⟩ :: s.past
  drifts s s' := s.now ≤ s'.now ∧ s'.cache = s.cache ∧ s'.past = s.past

section

variable (perform : σ → (call : Store.Call) → Except Store.Fault call.Answer × σ)

/-- One answer to every question, from a store that answers by itself. -/
def reply (s : Scene ι σ) (i : ι) (q : Effect) : q.Answer × Scene ι σ :=
  let (a, cache, stored) := s.traffic.serve perform q
  (a, ⟨s.now, cache, stored, ⟨s.now, i, q, a⟩ :: s.past⟩)

theorem answers_reply (s : Scene ι σ) (i : ι) (q : Effect) :
    (surroundings (Traffic.answering perform)).answers s i q (s.reply perform i q).1
      (s.reply perform i q).2 :=
  ⟨Traffic.answers_serve perform s.traffic q, rfl, rfl⟩

end

variable [DecidableEq ι]

/-- What the annals tell of the entries, of what was found in them and of what was put there. -/
structure Recorded (mayFill : ι → List Exchange → String → Bytes → Prop) (s : Scene ι σ) :
    Prop where
  kept : ∀ {key : Key} {e}, s.cache.entry? key.name = some e →
    s.past.Stands key.name e.bytes e.expiresAt
  found : ∀ {later time i limit earlier} {key : Key} {bs},
    s.past = later ++ ⟨time, i, .cache limit (.get key.name), .answered (some bs)⟩ :: earlier →
      ∃ expiry, Annals.Stands earlier key.name bs expiry ∧ time < expiry
  allowed : ∀ {later time i q a earlier}, s.past = later ++ ⟨time, i, q, a⟩ :: earlier →
    (journal mayFill).asks (i, Annals.diary earlier i) q

variable {mayFill : ι → List Exchange → String → Bytes → Prop} {store : Answering σ}

theorem recorded_empty (now : Span) (stored : σ) :
    Recorded mayFill (⟨now, .empty, stored, []⟩ : Scene ι σ) where
  kept := nofun
  found split := by simp at split
  allowed split := by simp at split

theorem kept_of_answers {s s' : Scene ι σ} {i : ι} {q : Effect} {a : q.Answer}
    (recorded : Recorded mayFill s) {t : ι × List Exchange} (may : (journal mayFill).asks t q)
    (answered : s.traffic.Answers store q a s'.cache s'.stored) {key : Key} {e : Entry}
    (present : s'.cache.entry? key.name = some e) :
    Annals.Stands (⟨s.now, i, q, a⟩ :: s.past) key.name e.bytes e.expiresAt := by
  cases q with
  | cache limit call =>
    obtain ⟨rfl, cache, -⟩ := answered
    rw [cache] at present
    rcases Memory.entry?_behind_perform present with ⟨before, idle⟩ | ⟨bs, ttl, rfl, rfl⟩ |
      ⟨token, ttl, rfl, rfl⟩
    · exact (recorded.kept before).cons idle
    · exact Annals.stands_of_set s.past key.name bs s.now limit ttl i
    · exact absurd may (not_namesLock_name key)
  | store call =>
    obtain ⟨-, cache⟩ := answered
    rw [cache] at present
    exact (recorded.kept present).cons id
  | _ =>
    obtain ⟨cache, -⟩ := answered
    rw [cache] at present
    exact (recorded.kept present).cons id

theorem stands_of_get {s : Scene ι σ} (recorded : Recorded mayFill s) {limit : Span} {key : Key}
    {bs : Bytes} {cache : Memory} {stored : σ}
    (answered : s.traffic.Answers store (.cache limit (.get key.name)) (.answered (some bs)) cache
      stored) :
    ∃ expiry, s.past.Stands key.name bs expiry ∧ s.now < expiry := by
  obtain ⟨reply, -, -⟩ := answered
  obtain ⟨e, present, lives, rfl⟩ := Memory.lives_of_get (Reply.answered.inj reply).symm
  exact ⟨e.expiresAt, recorded.kept present, lives⟩

theorem Recorded.answer {s s' : Scene ι σ} {i : ι} {q : Effect} {a : q.Answer}
    (recorded : Recorded mayFill s) (may : (journal mayFill).asks (i, s.past.diary i) q)
    (heard : (surroundings store).answers s i q a s') : Recorded mayFill s' := by
  obtain ⟨answered, -, noted⟩ := heard
  refine ⟨?_, ?_, ?_⟩
  · intro key e present
    rw [noted]
    exact kept_of_answers recorded may answered present
  · intro later time j limit earlier key bs split
    rw [noted] at split
    cases later with
    | nil =>
      cases split
      exact stands_of_get recorded answered
    | cons n later => exact recorded.found (List.cons.inj split).2
  · intro later time j r b earlier split
    rw [noted] at split
    cases later with
    | nil =>
      cases split
      exact may
    | cons n later => exact recorded.allowed (List.cons.inj split).2

/-- Whoever keeps to the journal leaves the annals right. -/
theorem keeps_journal : Pool.Keeps (surroundings store) (journal mayFill)
    (fun (s : Scene ι σ) i => (i, s.past.diary i)) (Recorded mayFill) where
  answer := by
    intro s s' i q a recorded may heard
    refine ⟨trivial, recorded.answer may heard, ?_, ?_⟩
    · rw [heard.2.2, Annals.diary_cons_self]
      rfl
    · intro j other
      rw [heard.2.2, Annals.diary_cons_of_ne _ _ (Ne.symm other)]
  drift := by
    intro s s' recorded moved
    obtain ⟨-, cache, past⟩ := moved
    refine ⟨⟨?_, ?_, ?_⟩, ?_⟩
    · rw [cache, past]
      exact recorded.kept
    · rw [past]
      exact recorded.found
    · rw [past]
      exact recorded.allowed
    · intro i
      rw [past]

end Scene

end ClipFeed
