import ClipFeed.Proofs.Cache.Gateway
import ClipFeed.Proofs.Cache.Locking
import ClipFeed.Proofs.Dialogue.Pool
import ClipFeed.Proofs.Dialogue.Transcript
/-!
A rush for one key. Many callers resolve the same key around one memory; time passes only when all
of them wait. What a caller has seen so far is its stage, and what it may ask next depends on it.
-/

namespace ClipFeed.Cache

open Text

variable {ι α ε : Type}

/-- What is asked for in a rush. -/
structure Demand (ι α ε : Type) where
  gateway : Gateway
  codec : Codec α
  key : Key
  policy : Policy
  /-- The answers that the store may give to a computation. -/
  answers : (call : Store.Call) → Except Store.Fault call.Answer → Prop
  work : ι → Action (Except ε α)
  /-- How long a computation takes at most. -/
  lasts : ι → Span

namespace Demand

variable (d : Demand ι α ε)

def Tells : (q : Effect) → q.Answer → Prop
  | .store call, a => d.answers call a
  | _, _ => True

/-- A computation asks only for what takes time. -/
def computing : Contract Effect Effect.Answer Unit where
  asks _ q := Waits q
  hears _ q a := d.Tells q a
  write _ _ _ := ()

/-- An outcome that can be stored and read again. -/
def Good (o : Except ε α) : Prop :=
  ∃ v bs, o = .ok v ∧ d.codec.encode v = .ok bs ∧ d.codec.decode bs = .ok v

/-- The computation of a caller, which says when it begins. -/
def compute (i : ι) : Action (Except ε α) := do
  Action.ask (.note "compute")
  d.work i

def resolve (i : ι) : Action (Except ε α) :=
  d.gateway.resolve d.codec d.key d.policy (d.compute i)

/-- Whether time suffices: a computation succeeds before its lock expires and before others give up
to wait for it, and whoever waits looks again before the entry expires. -/
structure Suffices : Prop where
  good : ∀ i, (d.work i).Meets d.computing (fun _ o => d.Good o) ()
  inLock : ∀ i, d.lasts i < d.policy.lockTtl
  inPolls : ∀ i, d.lasts i < d.gateway.pollAttempts * d.gateway.pollInterval
  inEntry : d.gateway.pollInterval < d.policy.ttl

end Demand

/-- How far a caller has come. -/
inductive Stage where
  | fresh
  | missed
  | contended
  | granted
  /-- The entry is still missing under the lock. -/
  | cleared
  | working (asked : List Exchange)
  | polling (left : Nat)
  | looking (left : Nat)
  /-- The entry is known to hold these bytes. -/
  | settled (bs : Bytes)

namespace Stage

/-- The stage behind a lookup that shows nothing. -/
def missing : Stage → Stage
  | fresh => missed
  | granted => cleared
  | looking left => polling left
  | stage => stage

def waited (x : Exchange) : Stage → Stage
  | working asked => working (asked ++ [x])
  | polling (left + 1) => looking left
  | stage => stage

def counted (polls : Nat) : Stage → Stage
  | contended => polling polls
  | stage => stage

def after (polls : Nat) (stage : Stage) : (q : Effect) → q.Answer → Stage
  | .cache _ (.get _), .answered (some bs) => settled bs
  | .cache _ (.get _), _ => stage.missing
  | .cache _ (.setIfAbsent ..), .answered true => granted
  | .cache _ (.setIfAbsent ..), _ => contended
  | .cache _ (.set _ bs _), _ => settled bs
  | .store call, a => stage.waited ⟨.store call, a⟩
  | .probe, a => stage.waited ⟨.probe, a⟩
  | .sleep span, a => stage.waited ⟨.sleep span, a⟩
  | .note _, _ => working []
  | .count _, _ => stage.counted polls
  | _, _ => stage

def Looks : Stage → Prop
  | fresh => True
  | granted => True
  | looking _ => True
  | _ => False

def Talks : Stage → Prop
  | missed => True
  | contended => True
  | granted => True
  | working _ => True
  | settled _ => True
  | _ => False

end Stage

namespace Demand

variable (d : Demand ι α ε)

/-- The course of callers in a rush: the entry is either missing or can be read, and it is not
missing when a caller looks for it for the last time. -/
def course : Contract Effect Effect.Answer (ι × Stage) where
  asks
    | t, .cache _ (.get name) => name = d.key.name ∧ t.2.Looks
    | t, .cache _ (.setIfAbsent name _ ttl) =>
      name = d.key.lockName ∧ ttl = d.policy.lockTtl ∧ t.2 = .missed
    | t, .cache _ (.set name bs ttl) => name = d.key.name ∧ ttl = d.policy.ttl ∧
      ∃ asked v, t.2 = .working asked ∧ (d.work t.1).Ends asked (.ok v) ∧
        d.codec.encode v = .ok bs ∧ d.codec.decode bs = .ok v
    | t, .cache _ (.deleteIfEquals name _) => name = d.key.lockName ∧ ∃ bs, t.2 = .settled bs
    | _, .cache _ (.delete _) => False
    | t, .store _ => ∃ asked, t.2 = .working asked
    | t, .probe => ∃ asked, t.2 = .working asked
    | t, .sleep span => (∃ asked, t.2 = .working asked) ∨
      span = d.gateway.pollInterval ∧ ∃ left, t.2 = .polling (left + 1)
    | t, .note _ => t.2 = .cleared
    | _, .requestId => False
    | t, _ => t.2.Talks
  hears
    | t, .cache _ (.get _), r => (r = .answered none ∧ t.2 ≠ .looking 0) ∨
      ∃ bs v, r = .answered (some bs) ∧ d.codec.decode bs = .ok v
    | _, .cache _ (.setIfAbsent ..), r => ∃ b, r = .answered b
    | _, .cache _ (.set ..), r => ∃ a, r = .answered a
    | _, .cache _ (.deleteIfEquals ..), r => ∃ b, r = .answered b
    | _, q, a => d.Tells q a
  write t q a := (t.1, t.2.after d.gateway.pollAttempts q a)

/-- What a caller returns whose entry holds these bytes. -/
def Reads (bs : Bytes) (o : Except ε α) : Prop :=
  ∃ v, d.codec.decode bs = .ok v ∧ o = .ok v

/-- The stage at a point of a resolution. Nobody comes to compute behind the lock or apart from the
cache. -/
def At (i : ι) : Point α ε → ι × Stage → Prop
  | .looking .first, t => t = (i, .fresh)
  | .looking (.again lock), t => t = (i, .granted) ∧ lock.key = d.key.lockName
  | .looking (.late left), t => t = (i, .looking left)
  | .missed, t => t = (i, .missed)
  | .drawn _, t => t = (i, .missed)
  | .granted lock, t => t = (i, .granted) ∧ lock.key = d.key.lockName
  | .polling left, t => t = (i, .polling left) ∧ left ≠ 0
  | .ready (.under lock), t => t = (i, .cleared) ∧ lock.key = d.key.lockName
  | .worked (.under lock) o, t => (∃ asked, t = (i, .working asked) ∧ (d.work i).Ends asked o) ∧
    d.Good o ∧ lock.key = d.key.lockName
  | .closing lock o, t => (∃ bs, t = (i, .settled bs) ∧ d.Reads bs o) ∧ lock.key = d.key.lockName
  | .yielded lock o, t => (∃ bs, t = (i, .settled bs) ∧ d.Reads bs o) ∧ lock.key = d.key.lockName
  | .ended o, t => ∃ bs, t = (i, .settled bs) ∧ d.Reads bs o
  | .counting .lockContended p, t => t = (i, .contended) ∧ p = .polling d.gateway.pollAttempts
  | .counting _ p, t => (t.2.Talks ∧ t.2 ≠ .contended) ∧ At i p t
  | .noting p, t => (t.2.Talks ∧ t.2 ≠ .contended) ∧ At i p t
  | _, _ => False

variable {d} {i : ι} {t : ι × Stage}

private theorem at_counting {metric : Metric} (other : metric ≠ .lockContended) {p : Point α ε} :
    d.At i (.counting metric p) t ↔ (t.2.Talks ∧ t.2 ≠ .contended) ∧ d.At i p t := by
  cases metric <;> first | rfl | exact absurd rfl other

theorem counted_of_ne {polls : Nat} {stage : Stage} (other : stage ≠ .contended) :
    stage.counted polls = stage := by
  cases stage <;> first | rfl | exact absurd rfl other

private theorem meets_work (asked : List Exchange) {work : Action (Except ε α)}
    (good : work.Meets d.computing (fun _ o => d.Good o) ()) :
    work.Meets d.course (fun t o => (∃ more, work.Ends more o ∧
      t = (i, .working (asked ++ more))) ∧ d.Good o) (i, .working asked) := by
  induction work generalizing asked with
  | done o => exact ⟨⟨[], .done o, by simp⟩, good⟩
  | ask q next ih =>
    obtain ⟨waits, rest⟩ := good
    have goes (a : q.Answer) (heard : d.Tells q a) :
        (next a).Meets d.course (fun t o => (∃ more, (Dialogue.ask q next).Ends more o ∧
          t = (i, .working (asked ++ more))) ∧ d.Good o) (i, .working (asked ++ [⟨q, a⟩])) := by
      have kept := ih a (asked ++ [(⟨q, a⟩ : Exchange)]) (rest a heard)
      apply kept.imp
      rintro _ o ⟨⟨more, ended, rfl⟩, good⟩
      exact ⟨⟨⟨q, a⟩ :: more, .ask ended, by simp⟩, good⟩
    match q with
    | .store _ | .probe => exact ⟨⟨asked, rfl⟩, goes⟩
    | .sleep _ => exact ⟨.inl ⟨asked, rfl⟩, goes⟩

theorem meets_compute (good : (d.work i).Meets d.computing (fun _ o => d.Good o) ()) :
    (d.compute i).Meets d.course (fun t o => (∃ asked, t = (i, .working asked) ∧
      (d.work i).Ends asked o) ∧ d.Good o) (i, .cleared) := by
  refine ⟨rfl, fun _ _ => ?_⟩
  apply (meets_work [] good).imp
  rintro _ o ⟨⟨asked, ended, rfl⟩, good⟩
  exact ⟨⟨asked, rfl, ended⟩, good⟩

/-- Every caller keeps to the course. -/
theorem course_outline (polls : 0 < d.gateway.pollAttempts)
    (good : (d.work i).Meets d.computing (fun _ o => d.Good o) ()) :
    Outline d.course d.gateway d.codec d.key d.policy (d.compute i) (d.At i) where
  log event here := ⟨here.1.1, fun _ _ => here.2⟩
  count {metric p t} here := by
    by_cases contended : metric = .lockContended
    · subst contended
      obtain ⟨rfl, rfl⟩ := here
      exact ⟨trivial, fun _ _ => ⟨rfl, Nat.pos_iff_ne_zero.mp polls⟩⟩
    · obtain ⟨⟨talks, other⟩, here⟩ := (at_counting contended).mp here
      have same : d.course.write t (.count metric) () = t := by
        obtain ⟨j, stage⟩ := t
        exact congrArg (j, ·) (counted_of_ne other)
      refine ⟨talks, fun _ _ => ?_⟩
      rw [same]
      exact here
  look {look t} here := by
    match look with
    | .first =>
      obtain rfl := here
      refine ⟨⟨rfl, trivial⟩, ?_⟩
      rintro _ (⟨rfl, -⟩ | ⟨bs, v, rfl, decoded⟩)
      · exact ⟨⟨trivial, nofun⟩, ⟨trivial, nofun⟩, rfl⟩
      · rw [Dialogue.Meets, Codec.sight_eq_value.mpr ⟨bs, rfl, decoded⟩]
        exact ⟨⟨trivial, nofun⟩, ⟨trivial, nofun⟩, bs, rfl, v, decoded, rfl⟩
    | .again lock =>
      obtain ⟨rfl, named⟩ := here
      refine ⟨⟨rfl, trivial⟩, ?_⟩
      rintro _ (⟨rfl, -⟩ | ⟨bs, v, rfl, decoded⟩)
      · exact ⟨rfl, named⟩
      · rw [Dialogue.Meets, Codec.sight_eq_value.mpr ⟨bs, rfl, decoded⟩]
        exact ⟨⟨trivial, nofun⟩, ⟨trivial, nofun⟩, ⟨bs, rfl, v, decoded, rfl⟩, named⟩
    | .late left =>
      obtain rfl := here
      refine ⟨⟨rfl, trivial⟩, ?_⟩
      rintro _ (⟨rfl, more⟩ | ⟨bs, v, rfl, decoded⟩)
      · refine ⟨rfl, ?_⟩
        rintro rfl
        exact more rfl
      · rw [Dialogue.Meets, Codec.sight_eq_value.mpr ⟨bs, rfl, decoded⟩]
        exact ⟨⟨trivial, nofun⟩, ⟨trivial, nofun⟩, bs, rfl, v, decoded, rfl⟩
  draw here := by
    obtain rfl := here
    exact ⟨trivial, fun _ _ => rfl⟩
  lock {token t} here := by
    obtain rfl := here
    refine ⟨⟨rfl, rfl, rfl⟩, ?_⟩
    rintro _ ⟨(_ | _), rfl⟩
    · exact ⟨rfl, rfl⟩
    · exact ⟨rfl, rfl⟩
  hold here := by
    obtain ⟨rfl, named⟩ := here
    exact ⟨trivial, fun _ _ => ⟨⟨trivial, nofun⟩, rfl, named⟩⟩
  sleep {left t} here := by
    obtain ⟨rfl, _⟩ := here
    exact ⟨.inr ⟨rfl, left, rfl⟩, fun _ _ => rfl⟩
  giveUp here := absurd rfl here.2
  compute {place t} here := by
    match place with
    | .under lock =>
      obtain ⟨rfl, named⟩ := here
      apply (meets_compute good).imp
      rintro _ o ⟨⟨asked, rfl, ended⟩, good⟩
      exact ⟨⟨trivial, nofun⟩, ⟨asked, rfl, ended⟩, good, named⟩
  fill {place v bs t} fills here encoded := by
    match place with
    | .under lock =>
      obtain ⟨⟨asked, rfl, ended⟩, ⟨_, _, ⟨⟩, same, decoded⟩, named⟩ := here
      obtain rfl := Except.ok.inj (same.symm.trans encoded)
      refine ⟨⟨rfl, rfl, asked, v, rfl, ended, encoded, decoded⟩, ?_⟩
      rintro _ ⟨a, rfl⟩
      exact ⟨⟨_, rfl, v, decoded, rfl⟩, named⟩
  unwritten {place v reason t} fills here encoded := by
    match place with
    | .under lock =>
      obtain ⟨_, ⟨_, _, ⟨⟩, same, _⟩, _⟩ := here
      exact absurd (same.symm.trans encoded) nofun
  failed {place failure t} here := by
    match place with
    | .under lock =>
      obtain ⟨_, ⟨_, _, ⟨⟩, _⟩, _⟩ := here
  leave here := here.elim
  unhold here := by
    obtain ⟨⟨bs, rfl, reads⟩, named⟩ := here
    exact ⟨trivial, fun _ _ => ⟨⟨bs, rfl, reads⟩, named⟩⟩
  release {lock o t} here := by
    obtain ⟨⟨bs, rfl, reads⟩, named⟩ := here
    refine ⟨⟨named, bs, rfl⟩, ?_⟩
    rintro _ ⟨(_ | _), rfl⟩
    · exact ⟨⟨trivial, nofun⟩, bs, rfl, reads⟩
    · exact ⟨bs, rfl, reads⟩

/-- Whoever comes to an end returns what its entry holds. -/
theorem meets_resolve (polls : 0 < d.gateway.pollAttempts)
    (good : (d.work i).Meets d.computing (fun _ o => d.Good o) ()) :
    (d.resolve i).Meets d.course (fun t o => ∃ bs, t = (i, .settled bs) ∧ d.Reads bs o)
      (i, .fresh) :=
  (course_outline polls good).meets_resolve rfl

end Demand

abbrev Diary := List (Span × Exchange)

/-- The time of the last answer. -/
def since? (xs : Diary) : Option Span :=
  xs.getLast?.map (·.1)

def runsAfter (runs : List (Span × List Exchange)) (now : Span) :
    (q : Effect) → q.Answer → List (Span × List Exchange)
  | .note _, _ => (now, []) :: runs
  | .store call, a => asks ⟨.store call, a⟩
  | .probe, a => asks ⟨.probe, a⟩
  | .sleep span, a => asks ⟨.sleep span, a⟩
  | _, _ => runs
where
  asks (x : Exchange) : List (Span × List Exchange) :=
    match runs with
    | [] => []
    | (began, asked) :: earlier => (began, asked ++ [x]) :: earlier

/-- The computations that a caller began, the last one first: when they began, and what was asked in
them. -/
def runs (xs : Diary) : List (Span × List Exchange) :=
  xs.foldl (fun runs x => runsAfter runs x.1 x.2.1 x.2.2) []

/-- When a caller filled an entry. -/
def fillings (name : String) (xs : Diary) : List Span :=
  xs.filterMap fun
    | (time, ⟨.cache _ (.set filled _ _), _⟩) => if filled = name then some time else none
    | _ => none

def stage (polls : Nat) (xs : Diary) : Stage :=
  xs.foldl (fun stage x => stage.after polls x.2.1 x.2.2) .fresh

/-- The time that an answer takes; computations wait for the store as long as they wait. -/
def takes : Effect → Option Span
  | .store _ => none
  | .probe => none
  | .sleep span => some span
  | _ => some 0

/-- A memory with the diaries of the callers around it. -/
structure Rush (ι : Type) where
  now : Span
  cache : Memory
  diaries : ι → Diary

namespace Rush

def since (s : Rush ι) (i : ι) : Option Span := since? (s.diaries i)

/-- Whether an entry was filled at a time. -/
def Filled (s : Rush ι) (name : String) (time : Span) : Prop :=
  ∃ i, time ∈ fillings name (s.diaries i)

end Rush

abbrev Callers (ι α ε : Type) :=
  Pool ι Effect Effect.Answer (fun _ => Except ε α) (Rush ι)

namespace Demand

variable [DecidableEq ι] (d : Demand ι α ε)

/-- How a question is answered in a rush, and what that leaves in the memory. -/
def Answers (s : Rush ι) : (q : Effect) → q.Answer → Memory → Prop
  | .cache _ call, r, m =>
    r = .answered (s.cache.perform s.now call).1 ∧ m = (s.cache.perform s.now call).2
  | q, a, m => d.Tells q a ∧ m = s.cache

/-- Whether a caller may be answered this way at this time: not before the answer is due, and no
caller arrives once an entry that was filled has expired. -/
def Hears (s : Rush ι) (i : ι) (q : Effect) (a : q.Answer) (s' : Rush ι) : Prop :=
  (∀ last ∈ s.since i, ∀ span ∈ takes q, last + span ≤ s.now) ∧
  (s.diaries i = [] → ∀ time, s.Filled d.key.name time → s.now < time + d.policy.ttl) ∧
  ∃ m, d.Answers s q a m ∧
    s' = ⟨s.now, m, Function.update s.diaries i (s.diaries i ++ [(s.now, ⟨q, a⟩)])⟩

omit [DecidableEq ι] in
/-- Whether a caller that has arrived can still wait at a later time, for the answer to a question
and for the end of its computation. -/
def Patient (s : Rush ι) (i : ι) (q : Effect) (later : Span) : Prop :=
  (∀ last ∈ s.since i, ∀ span ∈ takes q, later ≤ last + span) ∧
  ∀ run ∈ (runs (s.diaries i)).head?, later ≤ run.1 + d.lasts i

/-- The callers of a rush: one of them is answered, or time passes while all of them wait. -/
inductive Turn : Callers ι α ε → Callers ι α ε → Prop where
  | answer {s s' : Rush ι} {callers : ι → Action (Except ε α)} (i : ι) {q : Effect}
      {next : q.Answer → Action (Except ε α)} (asking : callers i = Dialogue.ask q next)
      (a : q.Answer) (heard : d.Hears s i q a s') :
      Turn ⟨s, callers⟩ ⟨s', Function.update callers i (next a)⟩
  | pass {s : Rush ι} {callers : ι → Action (Except ε α)} (later : Span) (passed : s.now ≤ later)
      (waiting : ∀ i q next, callers i = Dialogue.ask q next → d.Patient s i q later) :
      Turn ⟨s, callers⟩ ⟨{ s with now := later }, callers⟩

omit [DecidableEq ι] in
def opening (start : Span) (m : Memory) : Callers ι α ε :=
  ⟨⟨start, m, fun _ => []⟩, d.resolve⟩

end Demand

end ClipFeed.Cache
