import ClipFeed.Proofs.Cache.Locking
import ClipFeed.Proofs.Cache.Memory
import ClipFeed.Proofs.Dialogue.Pool
import ClipFeed.Proofs.Text.Ascii
/-!
Callers around one memory. What is known of every caller, how its questions are answered, and what
then holds of the entries of locks at any time, as long as no two tokens are the same.
-/

namespace ClipFeed.Cache

open Text

variable {ι : Type}

/-- What is known of a caller: what it has in hands, when the lock that it took last expires, and
the tokens that it was told. -/
structure Standing where
  hands : Hands
  lapse : Span
  told : List String

namespace Standing

def empty : Standing := ⟨.empty, 0, []⟩

def after (x : Standing) (now : Span) : (q : Effect) → Option q.Answer → Standing
  | .cache limit (.setIfAbsent name token ttl), some r =>
    ⟨x.hands.after (.cache limit (.setIfAbsent name token ttl)) r,
      if r = .answered true then now + ttl else x.lapse, x.told⟩
  | .lockToken, some token => ⟨x.hands.after .lockToken token, x.lapse, token :: x.told⟩
  | q, some a => { x with hands := x.hands.after q a }
  | _, none => { x with hands := x.hands.dropped }

private theorem after_none (x : Standing) (now : Span) (q : Effect) :
    x.after now q none = { x with hands := x.hands.dropped } := by
  match q with
  | .cache _ call => cases call <;> rfl
  | .store _ | .probe | .sleep _ | .lockToken | .requestId | .hold _ | .unhold | .count _ | .log _
  | .note _ => rfl

private theorem hands_after (x : Standing) (now : Span) (q : Effect) (a : Option q.Answer) :
    (x.after now q a).hands = a.elim x.hands.dropped (x.hands.after q) := by
  match q, a with
  | .cache _ call, a => cases call <;> cases a <;> rfl
  | .store _, a | .probe, a | .sleep _, a | .lockToken, a | .requestId, a | .hold _, a | .unhold, a
  | .count _, a | .log _, a | .note _, a => cases a <;> rfl

end Standing

/-- A memory with the callers around it. -/
structure Crowd (ι : Type) where
  now : Span
  cache : Memory
  standing : ι → Standing

namespace Crowd

/-- Whether a caller took a lock and has not given it back. -/
def Claims (s : Crowd ι) (i : ι) (lock : Lock) : Prop :=
  (s.standing i).hands.claim = some lock

instance (s : Crowd ι) (i : ι) (lock : Lock) : Decidable (s.Claims i lock) :=
  inferInstanceAs (Decidable (_ = _))

/-- Whether a caller took a lock that it has not given back and that has not expired. -/
def Holds (s : Crowd ι) (i : ι) (lock : Lock) : Prop :=
  s.Claims i lock ∧ s.now < (s.standing i).lapse

def Live (s : Crowd ι) (name : String) (e : Entry) : Prop :=
  s.cache.entry? name = some e ∧ s.now < e.expiresAt

instance (s : Crowd ι) (name : String) (e : Entry) : Decidable (s.Live name e) :=
  inferInstanceAs (Decidable (_ ∧ _))

/-- Whether nobody was told a token and no lock holds it. -/
def Fresh (s : Crowd ι) (token : String) : Prop :=
  (∀ i, token ∉ (s.standing i).told) ∧
    ∀ (key : Key) e, s.Live key.lockName e → e.bytes ≠ bytes token

/-- How a question is answered, and what that leaves in the memory. Calls are answered by the
memory, tokens are fresh, and nobody is dropped who does not wait. -/
def Answers (s : Crowd ι) : (q : Effect) → Option q.Answer → Memory → Prop
  | .cache _ call, some r, m =>
    r = .answered (s.cache.perform s.now call).1 ∧ m = (s.cache.perform s.now call).2
  | .lockToken, some token, m => s.Fresh token ∧ m = s.cache
  | _, some _, m => m = s.cache
  | q, none, m => Waits q ∧ m = s.cache

end Crowd

def around [DecidableEq ι] : Surroundings ι Effect (fun q => Option q.Answer) (Crowd ι) where
  answers s i q a s' := ∃ m, s.Answers q a m ∧
    s' = ⟨s.now, m, Function.update s.standing i ((s.standing i).after s.now q a)⟩
  drifts s s' := ∃ later, s.now ≤ later ∧ s' = { s with now := later }

/-- What holds of locks at any time, when the memory was `m` and nobody had a lock at first. -/
structure Guarded (m : Memory) (key : ι → Key) (s : Crowd ι) : Prop where
  own : ∀ {i lock}, s.Claims i lock → lock.key = (key i).lockName ∧ lock.token ∈ (s.standing i).told
  drawn : ∀ {i token}, (s.standing i).hands.token = some token → token ∈ (s.standing i).told
  distinct : ∀ {i j token}, token ∈ (s.standing i).told → token ∈ (s.standing j).told → i = j
  kept : ∀ {i lock}, s.Holds i lock →
    s.cache.entry? lock.key = some ⟨bytes lock.token, (s.standing i).lapse⟩
  entries : ∀ {k : Key} {e}, s.Live k.lockName e →
    (∃ i lock, s.Claims i lock ∧ lock.key = k.lockName ∧
      e = ⟨bytes lock.token, (s.standing i).lapse⟩) ∨ m.entry? k.lockName = some e
  foreign : ∀ {k : Key} {e}, m.entry? k.lockName = some e → s.now < e.expiresAt →
    s.cache.entry? k.lockName = some e ∧ ∀ i, ∀ token ∈ (s.standing i).told, e.bytes ≠ bytes token

/-- Whether a caller stands as before, apart from what dropping it would give back and a token that
it put away. -/
structure Alike (x y : Standing) : Prop where
  claim : y.hands.claim = x.hands.claim
  lapse : y.lapse = x.lapse
  told : y.told = x.told
  token : ∀ {token}, y.hands.token = some token → x.hands.token = some token

namespace Guarded

variable {m : Memory} {key : ι → Key} {s s' : Crowd ι}

theorem alone (guarded : Guarded m key s) {i j : ι} {lock other : Lock} (first : s.Claims i lock)
    (second : s.Claims j other) (same : lock.token = other.token) : i = j :=
  guarded.distinct (guarded.own first).2 (same ▸ (guarded.own second).2)

/-- A living entry with the token of a caller is the one that the caller made. -/
theorem made (guarded : Guarded m key s) {i : ι} {lock : Lock} {e : Entry}
    (claims : s.Claims i lock) (live : s.Live lock.key e) (token : e.bytes = bytes lock.token) :
    s.Holds i lock ∧ e = ⟨bytes lock.token, (s.standing i).lapse⟩ := by
  obtain ⟨named, told⟩ := guarded.own claims
  rw [named] at live
  rcases guarded.entries live with ⟨j, other, claimed, -, rfl⟩ | present
  · have same := bytes_injective token
    obtain rfl := guarded.alone claimed claims same
    exact ⟨⟨claims, live.2⟩, by rw [same]⟩
  · exact absurd token ((guarded.foreign present live.2).2 i _ told)

theorem mono (guarded : Guarded m key s) (later : s.now ≤ s'.now)
    (locks : ∀ k : Key, s'.cache.entry? k.lockName = s.cache.entry? k.lockName)
    (alike : ∀ i, Alike (s.standing i) (s'.standing i)) : Guarded m key s' where
  own {i lock} claims := by
    have before : s.Claims i lock := (alike i).claim.symm.trans claims
    rw [(alike i).told]
    exact guarded.own before
  drawn {i token} has := by
    rw [(alike i).told]
    exact guarded.drawn ((alike i).token has)
  distinct {i j token} first second := by
    rw [(alike i).told] at first
    rw [(alike j).told] at second
    exact guarded.distinct first second
  kept {i lock} holds := by
    have before : s.Claims i lock := (alike i).claim.symm.trans holds.1
    have inTime := holds.2
    rw [(alike i).lapse] at inTime ⊢
    have kept := guarded.kept ⟨before, Nat.lt_of_le_of_lt later inTime⟩
    rwa [(guarded.own before).1, locks, ← (guarded.own before).1]
  entries {k e} live := by
    have before : s.Live k.lockName e := ⟨locks k ▸ live.1, Nat.lt_of_le_of_lt later live.2⟩
    rcases guarded.entries before with ⟨i, lock, claims, named, same⟩ | present
    · refine .inl ⟨i, lock, ?_, named, ?_⟩
      · rw [Crowd.Claims, (alike i).claim]
        exact claims
      · rw [(alike i).lapse]
        exact same
    · exact .inr present
  foreign {k e} present lives := by
    obtain ⟨there, others⟩ := guarded.foreign present (Nat.lt_of_le_of_lt later lives)
    refine ⟨(locks k).trans there, ?_⟩
    intro i token told
    rw [(alike i).told] at told
    exact others i token told

section Step

variable {i : ι} (now : s'.now = s.now) (others : ∀ j, j ≠ i → s'.standing j = s.standing j)

include now others

/-- A fresh token may be handed out. -/
theorem draw (guarded : Guarded m key s) (cache : s'.cache = s.cache) {token : String}
    (fresh : s.Fresh token) (claim : (s'.standing i).hands.claim = (s.standing i).hands.claim)
    (lapse : (s'.standing i).lapse = (s.standing i).lapse)
    (has : (s'.standing i).hands.token = some token)
    (told : (s'.standing i).told = token :: (s.standing i).told) : Guarded m key s' := by
  have claims (j : ι) : (s'.standing j).hands.claim = (s.standing j).hands.claim := by
    by_cases same : j = i
    · rw [same, claim]
    · rw [others j same]
  have lapses (j : ι) : (s'.standing j).lapse = (s.standing j).lapse := by
    by_cases same : j = i
    · rw [same, lapse]
    · rw [others j same]
  have tells (j : ι) (other : String) : other ∈ (s'.standing j).told ↔
      other ∈ (s.standing j).told ∨ j = i ∧ other = token := by
    by_cases same : j = i
    · simp [same, told, or_comm]
    · simp [others j same, same]
  refine ⟨?_, ?_, ?_, ?_, ?_, ?_⟩
  · intro j lock claimed
    obtain ⟨named, known⟩ := guarded.own ((claims j).symm.trans claimed)
    exact ⟨named, (tells j _).mpr (.inl known)⟩
  · intro j other holds
    by_cases same : j = i
    · subst same
      obtain rfl := Option.some.inj (has.symm.trans holds)
      exact (tells j _).mpr (.inr ⟨rfl, rfl⟩)
    · rw [others j same] at holds ⊢
      exact guarded.drawn holds
  · intro j k other first second
    rcases (tells j other).mp first with first | ⟨rfl, rfl⟩
    · rcases (tells k other).mp second with second | ⟨rfl, rfl⟩
      · exact guarded.distinct first second
      · exact absurd first (fresh.1 j)
    · rcases (tells k other).mp second with second | ⟨rfl, _⟩
      · exact absurd second (fresh.1 k)
      · rfl
  · intro j lock ⟨claimed, inTime⟩
    rw [now, lapses j] at inTime
    rw [cache, lapses j]
    exact guarded.kept ⟨(claims j).symm.trans claimed, inTime⟩
  · intro k e ⟨present, lives⟩
    rw [cache] at present
    rw [now] at lives
    rcases guarded.entries ⟨present, lives⟩ with ⟨j, lock, claimed, named, same⟩ | foreign
    · exact .inl ⟨j, lock, (claims j).trans claimed, named, by rw [lapses j, same]⟩
    · exact .inr foreign
  · intro k e present lives
    rw [now] at lives
    obtain ⟨there, differ⟩ := guarded.foreign present lives
    refine ⟨cache ▸ there, ?_⟩
    intro j other known
    rcases (tells j other).mp known with known | ⟨_, rfl⟩
    · exact differ j other known
    · exact fresh.2 k e ⟨there, lives⟩

/-- A lock may be taken where no entry lives. -/
theorem take (guarded : Guarded m key s) {token : String} {expiry : Span}
    (free : ∀ e, ¬ s.Live (key i).lockName e) (has : (s.standing i).hands.token = some token)
    (cache : s'.cache = s.cache.insert (key i).lockName ⟨bytes token, expiry⟩)
    (hands : (s'.standing i).hands.claim = some ⟨(key i).lockName, token⟩)
    (away : (s'.standing i).hands.token = none)
    (lapse : (s'.standing i).lapse = expiry) (told : (s'.standing i).told = (s.standing i).told) :
    Guarded m key s' := by
  have tells (j : ι) : (s'.standing j).told = (s.standing j).told := by
    by_cases same : j = i
    · rw [same, told]
    · rw [others j same]
  have elsewhere {name : String} (other : name ≠ (key i).lockName) :
      s'.cache.entry? name = s.cache.entry? name := by
    rw [cache, Memory.entry?_insert_of_ne other]
  have here : s'.cache.entry? (key i).lockName = some ⟨bytes token, expiry⟩ := by
    rw [cache, Memory.entry?_insert]
  refine ⟨?_, ?_, ?_, ?_, ?_, ?_⟩
  · intro j lock claimed
    rw [tells]
    by_cases same : j = i
    · subst same
      obtain rfl := Option.some.inj (hands.symm.trans claimed)
      exact ⟨rfl, guarded.drawn has⟩
    · rw [Crowd.Claims, others j same] at claimed
      exact guarded.own claimed
  · intro j other holds
    rw [tells]
    by_cases same : j = i
    · subst same
      rw [away] at holds
      cases holds
    · rw [others j same] at holds
      exact guarded.drawn holds
  · intro j k other first second
    rw [tells] at first second
    exact guarded.distinct first second
  · intro j lock ⟨claimed, inTime⟩
    by_cases same : j = i
    · subst same
      obtain rfl := Option.some.inj (hands.symm.trans claimed)
      rw [here, lapse]
    · rw [Crowd.Claims, others j same] at claimed
      rw [now, others j same] at inTime
      have kept := guarded.kept ⟨claimed, inTime⟩
      have other : lock.key ≠ (key i).lockName := fun same => free _ ⟨same ▸ kept, inTime⟩
      rw [elsewhere other, kept, others j same]
  · intro k e ⟨present, lives⟩
    by_cases same : k.lockName = (key i).lockName
    · rw [same] at present
      obtain rfl := Option.some.inj (here.symm.trans present)
      exact .inl ⟨i, _, hands, same.symm, by rw [lapse]⟩
    · rw [elsewhere same] at present
      rw [now] at lives
      rcases guarded.entries ⟨present, lives⟩ with ⟨j, lock, claimed, named, rfl⟩ | foreign
      · have other : j ≠ i := by
          rintro rfl
          exact same (named.symm.trans (guarded.own claimed).1)
        refine .inl ⟨j, lock, ?_, named, ?_⟩
        · rw [Crowd.Claims, others j other]
          exact claimed
        · rw [others j other]
      · exact .inr foreign
  · intro k e present lives
    rw [now] at lives
    obtain ⟨there, differ⟩ := guarded.foreign present lives
    have other : k.lockName ≠ (key i).lockName := fun same => free e ⟨same ▸ there, lives⟩
    refine ⟨(elsewhere other).trans there, ?_⟩
    intro j token known
    rw [tells] at known
    exact differ j token known

/-- A lock may be given back; its entry goes away if it still holds the token. -/
theorem yield (guarded : Guarded m key s) {lock : Lock} (claims : s.Claims i lock)
    (cache : s'.cache = (s.cache.deleteIfEquals s.now lock.key lock.token).2)
    (hands : (s'.standing i).hands.claim = none)
    (token : (s'.standing i).hands.token = (s.standing i).hands.token)
    (told : (s'.standing i).told = (s.standing i).told) : Guarded m key s' := by
  have tells (j : ι) : (s'.standing j).told = (s.standing j).told := by
    by_cases same : j = i
    · rw [same, told]
    · rw [others j same]
  have other {j : ι} {taken : Lock} (claimed : s'.Claims j taken) : j ≠ i ∧ s.Claims j taken := by
    by_cases same : j = i
    · subst same
      rw [Crowd.Claims, hands] at claimed
      cases claimed
    · rw [Crowd.Claims, others j same] at claimed
      exact ⟨same, claimed⟩
  have unheld {e : Entry} (live : s.Live lock.key e) (holds : e.bytes = bytes lock.token) :
      s'.cache.entry? lock.key = none := by
    rw [cache, Memory.deleteIfEquals_of_live live.1 live.2 holds, Memory.entry?_erase]
  refine ⟨?_, ?_, ?_, ?_, ?_, ?_⟩
  · intro j taken claimed
    rw [tells]
    exact guarded.own (other claimed).2
  · intro j unused has
    rw [tells]
    by_cases same : j = i
    · rw [same, token] at has
      rw [same]
      exact guarded.drawn has
    · rw [others j same] at has
      exact guarded.drawn has
  · intro j k unused first second
    rw [tells] at first second
    exact guarded.distinct first second
  · intro j taken ⟨claimed, inTime⟩
    obtain ⟨different, claimed⟩ := other claimed
    rw [now, others j different] at inTime
    rw [others j different]
    have kept := guarded.kept ⟨claimed, inTime⟩
    rw [(guarded.own claimed).1] at kept ⊢
    rw [cache]
    rcases Memory.entry?_deleteIfEquals kept with still | ⟨_, _, same⟩
    · exact still
    · exact absurd (guarded.alone claimed claims (bytes_injective same)) different
  · intro k e ⟨present, lives⟩
    rw [now] at lives
    have live : s.Live k.lockName e :=
      ⟨Memory.entry?_behind_deleteIfEquals (cache ▸ present), lives⟩
    rcases guarded.entries live with ⟨j, taken, claimed, named, rfl⟩ | foreign
    · have different : j ≠ i := by
        rintro rfl
        obtain rfl := Option.some.inj (claims.symm.trans claimed)
        rw [← named] at live present
        rw [unheld live rfl] at present
        cases present
      refine .inl ⟨j, taken, ?_, named, ?_⟩
      · rw [Crowd.Claims, others j different]
        exact claimed
      · rw [others j different]
    · exact .inr foreign
  · intro k e present lives
    rw [now] at lives
    obtain ⟨there, differ⟩ := guarded.foreign present lives
    constructor
    · rw [cache]
      rcases Memory.entry?_deleteIfEquals there with still | ⟨_, _, same⟩
      · exact still
      · exact absurd same (differ i _ (guarded.own claims).2)
    · intro j unused known
      rw [tells] at known
      exact differ j unused known

private theorem ask_aside (guarded : Guarded m key s)
    (locks : ∀ k : Key, s'.cache.entry? k.lockName = s.cache.entry? k.lockName)
    (alike : Alike (s.standing i) (s'.standing i)) : Guarded m key s' := by
  refine guarded.mono (Nat.le_of_eq now.symm) locks fun j => ?_
  by_cases same : j = i
  · rw [same]
    exact alike
  · rw [others j same]
    exact ⟨rfl, rfl, rfl, id⟩

/-- Whatever may be asked and answered keeps what holds of locks. -/
theorem answer (guarded : Guarded m key s) {q : Effect} {a : Option q.Answer}
    (asked : disciplineOrDrop.asks (key i, (s.standing i).hands) q)
    (answered : s.Answers q a s'.cache) (own : s'.standing i = (s.standing i).after s.now q a) :
    Guarded m key s' := by
  have entries {limit : Span} {call : Call} {r : Reply call.Answer} (unnamed : ¬ NamesLock call.key)
      (answered : s.Answers (.cache limit call) (some r) s'.cache) (k : Key) :
      s'.cache.entry? k.lockName = s.cache.entry? k.lockName := by
    rw [answered.2, Memory.entry?_perform_of_ne call fun same => unnamed ⟨k, same.symm⟩]
  match q, a with
  | .cache limit (.get name), some r =>
    have unnamed : ¬ NamesLock (Call.get name).key := asked
    exact guarded.ask_aside now others (entries unnamed answered) (own ▸ ⟨rfl, rfl, rfl, id⟩)
  | .cache limit (.set name bs ttl), some r =>
    have unnamed : ¬ NamesLock (Call.set name bs ttl).key := asked
    exact guarded.ask_aside now others (entries unnamed answered) (own ▸ ⟨rfl, rfl, rfl, id⟩)
  | .cache limit (.delete name), some r =>
    have unnamed : ¬ NamesLock (Call.delete name).key := asked
    exact guarded.ask_aside now others (entries unnamed answered) (own ▸ ⟨rfl, rfl, rfl, id⟩)
  | .cache limit (.setIfAbsent name token ttl), some r =>
    obtain ⟨rfl, has, unclaimed⟩ := asked
    obtain ⟨replied, cache⟩ := answered
    by_cases free : ∀ e, ¬ s.Live (key i).lockName e
    · have granted : s.cache.perform s.now (.setIfAbsent (key i).lockName token ttl) = (true, _) :=
        Memory.setIfAbsent_of_not_live fun e present lives => free e ⟨present, lives⟩
      rw [granted] at replied cache
      subst replied
      exact guarded.take now others free has cache (by rw [own]; rfl) (by rw [own]; rfl)
        (by rw [own]; rfl) (by rw [own]; rfl)
    · simp only [not_forall, Classical.not_not] at free
      obtain ⟨e, present, lives⟩ := free
      have refused : s.cache.perform s.now (.setIfAbsent (key i).lockName token ttl) =
          (false, s.cache) := Memory.setIfAbsent_of_live present lives
      rw [refused] at replied cache
      subst replied
      refine guarded.ask_aside now others (fun k => by rw [cache]) ?_
      rw [own]
      exact ⟨unclaimed.symm, rfl, rfl, nofun⟩
  | .cache limit (.deleteIfEquals name token), some r =>
    have claims : s.Claims i ⟨name, token⟩ := asked
    exact guarded.yield now others claims answered.2 (by rw [own]; rfl) (by rw [own]; rfl)
      (by rw [own]; rfl)
  | .lockToken, some token =>
    obtain ⟨fresh, cache⟩ := answered
    exact guarded.draw now others cache fresh (by rw [own]; rfl) (by rw [own]; rfl)
      (by rw [own]; rfl) (by rw [own]; rfl)
  | .store _, some _ | .probe, some _ | .sleep _, some _ | .requestId, some _ | .hold _, some _
  | .unhold, some _ | .count _, some _ | .log _, some _ | .note _, some _ =>
    have cache : s'.cache = s.cache := answered
    exact guarded.ask_aside now others (fun k => by rw [cache]) (own ▸ ⟨rfl, rfl, rfl, id⟩)
  | q, none =>
    have cache : s'.cache = s.cache := by
      cases q <;> exact answered.2
    rw [Standing.after_none] at own
    exact guarded.ask_aside now others (fun k => by rw [cache]) (own ▸ ⟨rfl, rfl, rfl, id⟩)

end Step

/-- A caller whose lock has expired gives back nothing. -/
theorem overdue (guarded : Guarded m key s) {i : ι} {lock : Lock} (claims : s.Claims i lock)
    (late : (s.standing i).lapse ≤ s.now) :
    s.cache.deleteIfEquals s.now lock.key lock.token = (false, s.cache) := by
  apply Memory.deleteIfEquals_of_not_live
  intro e present lives token
  exact Nat.not_lt.mpr late (guarded.made claims ⟨present, lives⟩ token).1.2

/-- Living entries of locks stay, unless the caller that holds the lock gives it back. -/
theorem stays (guarded : Guarded m key s) {i : ι} {q : Effect} {a : Option q.Answer}
    {cache : Memory} (asked : disciplineOrDrop.asks (key i, (s.standing i).hands) q)
    (answered : s.Answers q a cache) {k : Key} {e : Entry} (live : s.Live k.lockName e) :
    cache.entry? k.lockName = some e ∨
      ∃ lock, s.Holds i lock ∧ lock.key = k.lockName ∧ e.bytes = bytes lock.token ∧
        ((s.standing i).after s.now q a).hands.claim = none := by
  have elsewhere {limit : Span} {call : Call} {r : Reply call.Answer}
      (answered : s.Answers (.cache limit call) (some r) cache) (other : k.lockName ≠ call.key) :
      cache.entry? k.lockName = some e := by
    rw [answered.2, Memory.entry?_perform_of_ne call other]
    exact live.1
  match q, a with
  | .cache limit (.get name), some r =>
    exact .inl (elsewhere answered fun same => asked ⟨k, same.symm⟩)
  | .cache limit (.set name bs ttl), some r =>
    exact .inl (elsewhere answered fun same => asked ⟨k, same.symm⟩)
  | .cache limit (.delete name), some r =>
    exact .inl (elsewhere answered fun same => asked ⟨k, same.symm⟩)
  | .cache limit (.setIfAbsent name token ttl), some r =>
    by_cases same : k.lockName = name
    · rw [same] at live ⊢
      have refused : s.cache.perform s.now (.setIfAbsent name token ttl) = (false, s.cache) :=
        Memory.setIfAbsent_of_live live.1 live.2
      have unchanged := answered.2
      rw [refused] at unchanged
      exact .inl (unchanged ▸ live.1)
    · exact .inl (elsewhere answered same)
  | .cache limit (.deleteIfEquals name token), some r =>
    rw [show cache = (s.cache.deleteIfEquals s.now name token).2 from answered.2]
    rcases Memory.entry?_deleteIfEquals live.1 with still | ⟨named, _, equal⟩
    · exact .inl still
    · rw [named] at live
      have claims : s.Claims i ⟨name, token⟩ := asked
      exact .inr ⟨_, (guarded.made claims live equal).1, named.symm, equal, rfl⟩
  | .lockToken, some token =>
    rw [show cache = s.cache from answered.2]
    exact .inl live.1
  | .store _, some _ | .probe, some _ | .sleep _, some _ | .requestId, some _ | .hold _, some _
  | .unhold, some _ | .count _, some _ | .log _, some _ | .note _, some _ =>
    rw [show cache = s.cache from answered]
    exact .inl live.1
  | q, none =>
    have unchanged : cache = s.cache := by
      cases q <;> exact answered.2
    rw [unchanged]
    exact .inl live.1

end Guarded

section Callers

variable [DecidableEq ι]

theorem keeps_guarded (m : Memory) (key : ι → Key) : Pool.Keeps around disciplineOrDrop
    (fun s i => (key i, (s.standing i).hands)) (Guarded m key) where
  answer {s s' i q a} guarded asked := by
    rintro ⟨cache, answered, same⟩
    have now : s'.now = s.now := by rw [same]
    have own : s'.standing i = (s.standing i).after s.now q a := by
      simp [same]
    have others (j : ι) (other : j ≠ i) : s'.standing j = s.standing j := by
      simp [same, other]
    refine ⟨?_, guarded.answer now others asked (by rwa [same]) own, ?_, ?_⟩
    · match q, a with
      | _, some _ => trivial
      | .store _, none | .probe, none | .sleep _, none => trivial
      | .cache _ _, none | .lockToken, none | .requestId, none | .hold _, none | .unhold, none
      | .count _, none | .log _, none | .note _, none => exact answered.1
    · rw [own, Standing.hands_after]
      cases a <;> rfl
    · intro j other
      rw [others j other]
  drift {s s'} guarded := by
    rintro ⟨later, passed, rfl⟩
    exact ⟨guarded.mono passed (fun _ => rfl) fun _ => ⟨rfl, rfl, rfl, id⟩, fun _ => rfl⟩

end Callers

end ClipFeed.Cache
