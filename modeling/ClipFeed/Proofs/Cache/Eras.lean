import ClipFeed.Proofs.Cache.Memory
import ClipFeed.Proofs.Cache.Pace
/-!
The order of a rush. At first nobody has the lock; then one caller holds it and computes while the
others wait; from then on everybody finds the entry that it filled. Time that suffices never lets a
caller leave this order.
-/

namespace ClipFeed.Cache

open Text

variable {ι α ε : Type} {d : Demand ι α ε} {s s' : Rush ι} {i : ι}

def Rush.Lacks (s : Rush ι) (name : String) : Prop :=
  ∀ e, s.cache.entry? name = some e → e.expiresAt ≤ s.now

/-- Where callers may be before one of them asks for the lock. -/
def Stage.Early : Stage → Prop
  | .fresh => True
  | .missed => True
  | _ => False

/-- Nobody has the lock yet. -/
structure Cold (d : Demand ι α ε) (s : Rush ι) : Prop where
  entry : s.Lacks d.key.name
  lock : s.Lacks d.key.lockName
  callers : ∀ i, (d.stage s i).Early ∧ s.runs i = []

/-- Where the caller may be that has taken the lock. -/
def Rush.Holds (s : Rush ι) (began : Span) (holder : ι) : Stage → Prop
  | .granted => s.now = began ∧ s.runs holder = []
  | .cleared => s.now = began ∧ s.runs holder = []
  | .working asked => s.runs holder = [(began, asked)]
  | _ => False

/-- Where callers may be while another one computes. -/
def Demand.Queued (d : Demand ι α ε) (s : Rush ι) (began : Span) (i : ι) : Stage → Prop
  | .fresh => True
  | .missed => True
  | .contended => True
  | .polling left => ∃ last, s.since i = some last ∧
    began + d.gateway.pollAttempts * d.gateway.pollInterval ≤ last + left * d.gateway.pollInterval
  | .looking left =>
    began + d.gateway.pollAttempts * d.gateway.pollInterval ≤ s.now + left * d.gateway.pollInterval
  | _ => False

/-- One caller holds the lock and has not filled the entry. -/
structure Filling (d : Demand ι α ε) (s : Rush ι) (holder : ι) (began : Span) : Prop where
  entry : s.Lacks d.key.name
  lock : ∃ bs, s.cache.entry? d.key.lockName = some ⟨bs, began + d.policy.lockTtl⟩
  past : began ≤ s.now
  holds : s.Holds began holder (d.stage s holder)
  others : ∀ j, j ≠ holder → d.Queued s began j (d.stage s j) ∧ s.runs j = []

/-- Where callers may be once another one has filled the entry. -/
def Demand.Served (d : Demand ι α ε) (s : Rush ι) (bs : Bytes) (time : Span) (i : ι) :
    Stage → Prop
  | .fresh => True
  | .settled found => found = bs
  | .polling _ => ∃ last, s.since i = some last ∧ last ≤ time
  | .looking _ => s.now ≤ time + d.gateway.pollInterval
  | .missed => s.now = time
  | .contended => s.now = time
  | .granted => s.now = time
  | _ => False

/-- One caller has computed and filled the entry. -/
structure Filled (d : Demand ι α ε) (s : Rush ι) (holder : ι) (run : Span × List Exchange)
    (bs : Bytes) (time : Span) : Prop where
  entry : s.cache.entry? d.key.name = some ⟨bs, time + d.policy.ttl⟩
  told : s.Filled d.key.name time
  value : ∃ v, (d.work holder).Ends run.2 (.ok v) ∧ d.codec.decode bs = .ok v
  holds : d.stage s holder = .settled bs ∧ s.runs holder = [run]
  others : ∀ j, j ≠ holder → d.Served s bs time j (d.stage s j) ∧ s.runs j = []

theorem Rush.Lacks.mono {name : String} (lacks : s.Lacks name) (later : s.now ≤ s'.now)
    (kept : ∀ e, s'.cache.entry? name = some e → s.cache.entry? name = some e) : s'.Lacks name :=
  fun e present => Nat.le_trans (lacks e (kept e present)) later

theorem Rush.Lacks.free {name : String} (lacks : s.Lacks name) (e : Entry)
    (present : s.cache.entry? name = some e) : ¬ s.now < e.expiresAt :=
  Nat.not_lt.mpr (lacks e present)

section

variable {q : Effect} {a : q.Answer} {holder : ι} {began time : Span}
  {run : Span × List Exchange} {bs : Bytes}

theorem Step.look {limit : Span} {name : String} {r : Reply (Call.get name).Answer}
    (step : Step d s s' i (.cache limit (.get name)) r) (lacks : s.Lacks name) :
    r = .answered none ∧ s'.Lacks name := by
  obtain ⟨answered, left⟩ := step.cache
  have missing : (s.cache.perform s.now (.get name)).1 = none :=
    Memory.get_of_not_live lacks.free
  refine ⟨answered.trans (congrArg Reply.answered missing), ?_⟩
  apply lacks.mono (Nat.le_of_eq step.now.symm)
  intro e kept
  rw [left] at kept
  exact Memory.entry?_behind_get kept

theorem Step.find {limit : Span} {name : String} {r : Reply (Call.get name).Answer} {e : Entry}
    (step : Step d s s' i (.cache limit (.get name)) r) (present : s.cache.entry? name = some e)
    (lives : s.now < e.expiresAt) : r = .answered (some e.bytes) ∧ s'.cache = s.cache := by
  obtain ⟨answered, left⟩ := step.cache
  have found : s.cache.perform s.now (.get name) = (some e.bytes, s.cache) :=
    Memory.get_of_live present lives
  rw [found] at answered left
  exact ⟨answered, left⟩

theorem Step.take {limit : Span} {name token : String} {ttl : Span} {r : Reply Bool}
    (step : Step d s s' i (.cache limit (.setIfAbsent name token ttl)) r)
    (lacks : s.Lacks name) :
    r = .answered true ∧ s'.cache.entry? name = some ⟨bytes token, s.now + ttl⟩ := by
  obtain ⟨answered, left⟩ := step.cache
  have taken : s.cache.perform s.now (.setIfAbsent name token ttl) =
      (true, s.cache.insert name ⟨bytes token, s.now + ttl⟩) :=
    Memory.setIfAbsent_of_not_live lacks.free
  rw [taken] at answered left
  exact ⟨answered, left ▸ Memory.entry?_insert ..⟩

private theorem Step.contend
    {limit : Span} {name token : String} {ttl : Span} {r : Reply Bool} {e : Entry}
    (step : Step d s s' i (.cache limit (.setIfAbsent name token ttl)) r)
    (present : s.cache.entry? name = some e) (lives : s.now < e.expiresAt) :
    r = .answered false ∧ s'.cache = s.cache := by
  obtain ⟨answered, left⟩ := step.cache
  have refused : s.cache.perform s.now (.setIfAbsent name token ttl) = (false, s.cache) :=
    Memory.setIfAbsent_of_live present lives
  rw [refused] at answered left
  exact ⟨answered, left⟩

/-- A call leaves the entries of other keys alone. -/
theorem Step.entry_other {limit : Span} {call : Call} {r : Reply call.Answer} {name : String}
    (step : Step d s s' i (.cache limit call) r) (other : name ≠ call.key) :
    s'.cache.entry? name = s.cache.entry? name := by
  rw [step.cache.2]
  exact Memory.entry?_perform_of_ne call other s.cache s.now

theorem Step.lacks_of_eq {name : String} (step : Step d s s' i q a) (lacks : s.Lacks name)
    (same : s'.cache.entry? name = s.cache.entry? name) : s'.Lacks name :=
  lacks.mono (Nat.le_of_eq step.now.symm) fun _ present => same ▸ present

/-- While nobody has the lock, a caller misses the entry or takes the lock. -/
theorem Cold.answer (cold : Cold d s) (step : Step d s s' i q a)
    (deed : Deed d i (d.stage s i) q) :
    d.course.hears (i, d.stage s i) q a ∧ (Cold d s' ∨ Filling d s' i s.now) := by
  have stays (entry : s'.Lacks d.key.name) (lock : s'.Lacks d.key.lockName)
      (early : (d.stage s' i).Early) (idle : s'.runs i = s.runs i) : Cold d s' := by
    refine ⟨entry, lock, fun j => ?_⟩
    by_cases same : j = i
    · subst same
      exact ⟨early, idle.trans (cold.callers j).2⟩
    · rw [step.stage_other same, step.runs_other same]
      exact cold.callers j
  obtain ⟨place, idle⟩ := cold.callers i
  have moved := step.stage
  have runs := step.runs
  generalize d.stage s i = stage at deed place moved ⊢
  cases deed with
  | look looks limit =>
    obtain ⟨rfl, entry⟩ := step.look cold.entry
    have lock := step.lacks_of_eq cold.lock (step.entry_other (Key.lockName_ne_name _ _))
    cases stage with
    | fresh => exact ⟨.inl ⟨rfl, nofun⟩, .inl (stays entry lock (moved ▸ trivial) runs)⟩
    | missed => exact looks.elim
    | _ => exact place.elim
  | lock limit token =>
    obtain ⟨rfl, lock⟩ := step.take cold.lock
    have entry := step.lacks_of_eq cold.entry (step.entry_other (Key.lockName_ne_name _ _).symm)
    refine ⟨⟨true, rfl⟩, .inr ⟨entry, ⟨_, lock⟩, Nat.le_of_eq step.now.symm, ?_, ?_⟩⟩
    · rw [moved]
      exact ⟨step.now, runs.trans idle⟩
    · intro j other
      rw [step.stage_other other, step.runs_other other]
      obtain ⟨early, idle⟩ := cold.callers j
      refine ⟨?_, idle⟩
      cases place : d.stage s j with
      | fresh => trivial
      | missed => trivial
      | _ =>
        rw [place] at early
        exact early.elim
  | fill ended decoded limit => exact place.elim
  | unlock bs limit token => exact place.elim
  | compute asked waits => exact place.elim
  | rest left => exact place.elim
  | begin label => exact place.elim
  | queue metric => exact place.elim
  | talk talks quiet unmoved unasked =>
    obtain ⟨heard, left⟩ := step.quiet quiet
    rw [unmoved] at moved
    rw [unasked] at runs
    have entry := step.lacks_of_eq cold.entry (by rw [left])
    have lock := step.lacks_of_eq cold.lock (by rw [left])
    exact ⟨heard, .inl (stays entry lock (moved ▸ place) runs)⟩

/-- Whoever has the lock is in time. -/
theorem Filling.inTime (filling : Filling d s holder began) (timely : Timely d s) :
    s.now ≤ began + d.lasts holder := by
  have holds := filling.holds
  have due := timely.due holder
  generalize d.stage s holder = stage at holds due
  cases stage with
  | granted => exact Nat.le_add_right_of_le (Nat.le_of_eq holds.1)
  | cleared => exact Nat.le_add_right_of_le (Nat.le_of_eq holds.1)
  | working asked =>
    apply due (began, asked)
    rw [show s.runs holder = [(began, asked)] from holds]
    rfl
  | _ => exact holds.elim

theorem Step.queued {j : ι} (step : Step d s s' i q a) (other : j ≠ i)
    (queued : d.Queued s began j (d.stage s j) ∧ s.runs j = []) :
    d.Queued s' began j (d.stage s' j) ∧ s'.runs j = [] := by
  unfold Demand.Queued at queued ⊢
  rwa [step.stage_other other, step.now, step.since_other other, step.runs_other other]

theorem Step.served {j : ι} (step : Step d s s' i q a) (other : j ≠ i)
    (served : d.Served s bs time j (d.stage s j) ∧ s.runs j = []) :
    d.Served s' bs time j (d.stage s' j) ∧ s'.runs j = [] := by
  unfold Demand.Served at served ⊢
  rwa [step.stage_other other, step.now, step.since_other other, step.runs_other other]

/-- Whoever is in the queue when the entry is filled is served from then on. -/
theorem Timely.served (timely : Timely d s) {j : ι}
    (queued : d.Queued s began j (d.stage s j)) : d.Served s bs s.now j (d.stage s j) := by
  have arrived := timely.arrived j
  generalize d.stage s j = stage at queued arrived ⊢
  cases stage with
  | fresh => trivial
  | missed => rfl
  | contended => rfl
  | polling left => exact arrived nofun
  | looking left => exact Nat.le_add_right ..
  | _ => exact queued.elim

/-- The caller with the lock looks again, computes and fills the entry. -/
theorem Filling.hold (filling : Filling d s holder began) (timely : Timely d s)
    (step : Step d s s' holder q a) (deed : Deed d holder (d.stage s holder) q) :
    d.course.hears (holder, d.stage s holder) q a ∧
      (Filling d s' holder began ∨ ∃ run bs, Filled d s' holder run bs s.now) := by
  have stays (entry : s'.Lacks d.key.name)
      (lock : s'.cache.entry? d.key.lockName = s.cache.entry? d.key.lockName)
      (holds : s'.Holds began holder (d.stage s' holder)) : Filling d s' holder began :=
    ⟨entry, lock ▸ filling.lock, step.now ▸ filling.past, holds,
      fun j other => step.queued other (filling.others j other)⟩
  have holds := filling.holds
  have moved := step.stage
  have runs := step.runs
  generalize d.stage s holder = stage at deed holds moved ⊢
  cases deed with
  | look looks limit =>
    obtain ⟨rfl, entry⟩ := step.look filling.entry
    have lock := step.entry_other (Key.lockName_ne_name d.key d.key)
    cases stage with
    | granted =>
      refine ⟨.inl ⟨rfl, nofun⟩, .inl (stays entry lock ?_)⟩
      rw [moved]
      exact ⟨step.now.trans holds.1, runs.trans holds.2⟩
    | fresh => exact holds.elim
    | looking left => exact holds.elim
    | _ => exact looks.elim
  | lock limit token => exact holds.elim
  | @fill asked v bs ended decoded limit =>
    obtain ⟨rfl, left⟩ := step.cache
    have entry : s'.cache.entry? d.key.name = some ⟨bs, s.now + d.policy.ttl⟩ :=
      left ▸ Memory.entry?_insert ..
    refine ⟨⟨_, rfl⟩, .inr ⟨(began, asked), bs, entry, ?_, ?_, ?_, ?_⟩⟩
    · exact ⟨holder, List.mem_filterMap.mpr ⟨_, step.told, if_pos rfl⟩⟩
    · exact ⟨v, ended, decoded⟩
    · exact ⟨moved, runs.trans holds⟩
    · intro j other
      obtain ⟨queued, idle⟩ := filling.others j other
      exact step.served other ⟨timely.served queued, idle⟩
  | unlock bs limit token => exact holds.elim
  | compute asked waits =>
    obtain ⟨heard, left⟩ := step.quiet (quiet_of_waits waits)
    rw [after_of_waits waits] at moved
    rw [runsAfter_of_waits waits, show s.runs holder = [(began, asked)] from holds] at runs
    have entry := step.lacks_of_eq filling.entry (by rw [left])
    refine ⟨heard, .inl (stays entry (by rw [left]) ?_)⟩
    rw [moved]
    exact runs
  | rest left => exact holds.elim
  | begin label =>
    obtain ⟨heard, left⟩ := step.quiet nofun
    have entry := step.lacks_of_eq filling.entry (by rw [left])
    refine ⟨heard, .inl (stays entry (by rw [left]) ?_)⟩
    rw [moved]
    rw [holds.1, holds.2] at runs
    exact runs
  | queue metric => exact holds.elim
  | talk talks quiet unmoved unasked =>
    obtain ⟨heard, left⟩ := step.quiet quiet
    rw [unmoved] at moved
    rw [unasked] at runs
    have entry := step.lacks_of_eq filling.entry (by rw [left])
    refine ⟨heard, .inl (stays entry (by rw [left]) ?_)⟩
    rw [moved]
    unfold Rush.Holds at holds ⊢
    rwa [step.now, runs]

/-- The others miss the entry, find the lock taken and wait. -/
theorem Filling.queue (filling : Filling d s holder began) (timely : Timely d s)
    (enough : d.Suffices) (step : Step d s s' i q a) (other : i ≠ holder)
    (deed : Deed d i (d.stage s i) q) :
    d.course.hears (i, d.stage s i) q a ∧ Filling d s' holder began := by
  have stays (entry : s'.Lacks d.key.name)
      (lock : s'.cache.entry? d.key.lockName = s.cache.entry? d.key.lockName)
      (queued : d.Queued s' began i (d.stage s' i)) (idle : s'.runs i = []) :
      Filling d s' holder began := by
    refine ⟨entry, lock ▸ filling.lock, step.now ▸ filling.past, ?_, fun j waits => ?_⟩
    · have holds := filling.holds
      unfold Rush.Holds at holds ⊢
      rwa [step.stage_other other.symm, step.now, step.runs_other other.symm]
    · by_cases same : j = i
      · subst same
        exact ⟨queued, idle⟩
      · exact step.queued same (filling.others j waits)
  have inTime := filling.inTime timely
  obtain ⟨queued, idle⟩ := filling.others i other
  have moved := step.stage
  have runs := step.runs
  rw [idle] at runs
  generalize d.stage s i = stage at deed queued moved ⊢
  cases deed with
  | look looks limit =>
    obtain ⟨rfl, entry⟩ := step.look filling.entry
    have lock := step.entry_other (Key.lockName_ne_name d.key d.key)
    cases stage with
    | fresh => exact ⟨.inl ⟨rfl, nofun⟩, stays entry lock (moved ▸ trivial) runs⟩
    | granted => exact queued.elim
    | looking left =>
      have more : Stage.looking left ≠ .looking 0 := by
        rintro ⟨⟩
        -- The last look comes no sooner than all polls take, and the computation is done by then.
        apply Nat.lt_irrefl s.now
        calc s.now
          _ ≤ began + d.lasts holder := inTime
          _ < began + d.gateway.pollAttempts * d.gateway.pollInterval :=
            Nat.add_lt_add_left (enough.inPolls holder) began
          _ ≤ s.now + 0 * d.gateway.pollInterval := queued
          _ = s.now := by simp
      refine ⟨.inl ⟨rfl, more⟩, stays entry lock ?_ runs⟩
      rw [moved]
      exact ⟨s.now, step.since, queued⟩
    | _ => exact looks.elim
  | lock limit token =>
    obtain ⟨bs, present⟩ := filling.lock
    have lives : s.now < began + d.policy.lockTtl :=
      Nat.lt_of_le_of_lt inTime (Nat.add_lt_add_left (enough.inLock holder) began)
    obtain ⟨rfl, left⟩ := step.contend present lives
    have entry := step.lacks_of_eq filling.entry (by rw [left])
    exact ⟨⟨false, rfl⟩, stays entry (by rw [left]) (moved ▸ trivial) runs⟩
  | fill ended decoded limit => exact queued.elim
  | unlock bs limit token => exact queued.elim
  | compute asked waits => exact queued.elim
  | rest left =>
    obtain ⟨heard, kept⟩ := step.quiet nofun
    obtain ⟨last, since, far⟩ := queued
    have entry := step.lacks_of_eq filling.entry (by rw [kept])
    refine ⟨heard, stays entry (by rw [kept]) ?_ runs⟩
    have ripe := step.ripe last since d.gateway.pollInterval rfl
    rw [moved]
    calc began + d.gateway.pollAttempts * d.gateway.pollInterval
      _ ≤ last + (left + 1) * d.gateway.pollInterval := far
      _ = last + d.gateway.pollInterval + left * d.gateway.pollInterval := by
        rw [Nat.succ_mul, Nat.add_comm (left * _), Nat.add_assoc]
      _ ≤ s.now + left * d.gateway.pollInterval := Nat.add_le_add_right ripe _
      _ = s'.now + left * d.gateway.pollInterval := by rw [step.now]
  | begin label => exact queued.elim
  | queue metric =>
    obtain ⟨heard, left⟩ := step.quiet nofun
    have entry := step.lacks_of_eq filling.entry (by rw [left])
    refine ⟨heard, stays entry (by rw [left]) ?_ runs⟩
    rw [moved]
    exact ⟨s.now, step.since, Nat.add_le_add_right filling.past _⟩
  | talk talks quiet unmoved unasked =>
    obtain ⟨heard, left⟩ := step.quiet quiet
    rw [unmoved] at moved
    rw [unasked] at runs
    have entry := step.lacks_of_eq filling.entry (by rw [left])
    refine ⟨heard, stays entry (by rw [left]) ?_ runs⟩
    rw [moved]
    cases stage with
    | missed => trivial
    | contended => trivial
    | granted => exact queued.elim
    | working asked => exact queued.elim
    | settled bs => exact queued.elim
    | _ => exact talks.elim

/-- The caller that has filled the entry gives the lock back. -/
theorem Filled.hold (filled : Filled d s holder run bs time) (step : Step d s s' holder q a)
    (deed : Deed d holder (d.stage s holder) q) :
    d.course.hears (holder, d.stage s holder) q a ∧ Filled d s' holder run bs time := by
  have stays (entry : s'.cache.entry? d.key.name = s.cache.entry? d.key.name)
      (holds : d.stage s' holder = .settled bs ∧ s'.runs holder = [run]) :
      Filled d s' holder run bs time :=
    ⟨entry.trans filled.entry, step.filled _ _ filled.told, filled.value, holds,
      fun j other => step.served other (filled.others j other)⟩
  obtain ⟨place, computed⟩ := filled.holds
  have moved := step.stage
  have runs := step.runs
  rw [computed] at runs
  generalize d.stage s holder = stage at deed place moved ⊢
  subst place
  cases deed with
  | look looks limit => exact looks.elim
  | unlock bs limit token =>
    obtain ⟨rfl, _⟩ := step.cache
    have entry := step.entry_other (Key.lockName_ne_name d.key d.key).symm
    exact ⟨⟨_, rfl⟩, stays entry ⟨moved, runs⟩⟩
  | talk talks quiet unmoved unasked =>
    obtain ⟨heard, left⟩ := step.quiet quiet
    rw [unmoved] at moved
    rw [unasked] at runs
    exact ⟨heard, stays (by rw [left]) ⟨moved, runs⟩⟩

/-- The others find the filled entry, at the latest when they look for it again. -/
theorem Filled.serve (filled : Filled d s holder run bs time) (timely : Timely d s)
    (enough : d.Suffices) (step : Step d s s' i q a) (other : i ≠ holder)
    (deed : Deed d i (d.stage s i) q) :
    d.course.hears (i, d.stage s i) q a ∧ Filled d s' holder run bs time := by
  have stays (entry : s'.cache.entry? d.key.name = s.cache.entry? d.key.name)
      (served : d.Served s' bs time i (d.stage s' i)) (idle : s'.runs i = []) :
      Filled d s' holder run bs time := by
    refine ⟨entry.trans filled.entry, step.filled _ _ filled.told, filled.value, ?_,
      fun j waits => ?_⟩
    · rw [step.stage_other other.symm, step.runs_other other.symm]
      exact filled.holds
    · by_cases same : j = i
      · subst same
        exact ⟨served, idle⟩
      · exact step.served same (filled.others j waits)
  have ready : time < time + d.policy.ttl :=
    Nat.lt_add_of_pos_right (Nat.zero_lt_of_lt enough.inEntry)
  have begins := timely.begins i
  have due := timely.due i
  obtain ⟨served, idle⟩ := filled.others i other
  have moved := step.stage
  have runs := step.runs
  rw [idle] at runs
  generalize d.stage s i = stage at deed served begins due moved ⊢
  cases deed with
  | look looks limit =>
    have lives : s.now < time + d.policy.ttl := by
      cases stage with
      | fresh => exact step.early (begins rfl) time filled.told
      | granted => exact Nat.lt_of_le_of_lt (Nat.le_of_eq served) ready
      | looking left =>
        exact Nat.lt_of_le_of_lt served (Nat.add_lt_add_left enough.inEntry time)
      | _ => exact looks.elim
    obtain ⟨v, _, decoded⟩ := filled.value
    obtain ⟨rfl, left⟩ := step.find filled.entry lives
    refine ⟨.inr ⟨bs, v, rfl, decoded⟩, stays (by rw [left]) ?_ runs⟩
    rw [moved]
    rfl
  | lock limit token =>
    -- The lock may be free again; whoever takes it now looks once more and finds the entry.
    obtain ⟨rfl, left⟩ := step.cache
    have entry := step.entry_other (Key.lockName_ne_name d.key d.key).symm
    refine ⟨⟨_, rfl⟩, stays entry ?_ runs⟩
    rw [moved]
    have now : s'.now = time := step.now.trans served
    cases (s.cache.perform s.now (.setIfAbsent d.key.lockName token d.policy.lockTtl)).1 with
    | true => exact now
    | false => exact now
  | fill ended decoded limit => exact served.elim
  | unlock found limit token =>
    obtain ⟨rfl, _⟩ := step.cache
    have entry := step.entry_other (Key.lockName_ne_name d.key d.key).symm
    exact ⟨⟨_, rfl⟩, stays entry (moved ▸ served) runs⟩
  | compute asked waits => exact served.elim
  | rest left =>
    -- It went to wait before the entry was filled, so its turn comes within one interval from then.
    obtain ⟨heard, kept⟩ := step.quiet nofun
    obtain ⟨last, since, past⟩ := served
    refine ⟨heard, stays (by rw [kept]) ?_ runs⟩
    rw [moved]
    calc s'.now
      _ = s.now := step.now
      _ ≤ last + d.gateway.pollInterval := due last since
      _ ≤ time + d.gateway.pollInterval := Nat.add_le_add_right past _
  | begin label => exact served.elim
  | queue metric =>
    obtain ⟨heard, left⟩ := step.quiet nofun
    refine ⟨heard, stays (by rw [left]) ?_ runs⟩
    rw [moved]
    exact ⟨s.now, step.since, Nat.le_of_eq served⟩
  | talk talks quiet unmoved unasked =>
    obtain ⟨heard, left⟩ := step.quiet quiet
    rw [unmoved] at moved
    rw [unasked] at runs
    refine ⟨heard, stays (by rw [left]) ?_ runs⟩
    rw [moved]
    cases stage with
    | missed => exact step.now.trans served
    | contended => exact step.now.trans served
    | granted => exact step.now.trans served
    | working asked => exact served.elim
    | settled found => exact served
    | _ => exact talks.elim

end

/-- How far a rush has come. -/
inductive Era (d : Demand ι α ε) (s : Rush ι) : Prop where
  | cold (cold : Cold d s)
  | filling {holder : ι} {began : Span} (filling : Filling d s holder began)
  | filled {holder : ι} {run : Span × List Exchange} {bs : Bytes} {time : Span}
    (filled : Filled d s holder run bs time)

/-- Every answer is one that the course counts on, and a rush only goes on. -/
theorem Era.answer {q : Effect} {a : q.Answer} (era : Era d s) (timely : Timely d s)
    (enough : d.Suffices) (step : Step d s s' i q a) (deed : Deed d i (d.stage s i) q) :
    d.course.hears (i, d.stage s i) q a ∧ Era d s' := by
  cases era with
  | cold cold =>
    obtain ⟨heard, cold | filling⟩ := cold.answer step deed
    · exact ⟨heard, .cold cold⟩
    · exact ⟨heard, .filling filling⟩
  | @filling holder began filling =>
    by_cases holds : i = holder
    · subst holds
      obtain ⟨heard, filling | ⟨run, bs, filled⟩⟩ := filling.hold timely step deed
      · exact ⟨heard, .filling filling⟩
      · exact ⟨heard, .filled filled⟩
    · obtain ⟨heard, filling⟩ := filling.queue timely enough step holds deed
      exact ⟨heard, .filling filling⟩
  | @filled holder run bs time filled =>
    by_cases holds : i = holder
    · subst holds
      obtain ⟨heard, filled⟩ := filled.hold step deed
      exact ⟨heard, .filled filled⟩
    · obtain ⟨heard, filled⟩ := filled.serve timely enough step holds deed
      exact ⟨heard, .filled filled⟩

section

variable {later : Span} {holder : ι} {began time : Span} {run : Span × List Exchange} {bs : Bytes}

theorem Timely.still (timely : Timely d s) (passed : s.now ≤ later)
    (arrived : d.stage s i ≠ .fresh) (due : ∀ last ∈ s.since i, later ≤ last) :
    later = s.now := by
  obtain ⟨last, since, past⟩ := timely.arrived i arrived
  exact Nat.le_antisymm (Nat.le_trans (due last since) past) passed

variable (timely : Timely d s) (passed : s.now ≤ later)
  (due : ∀ i, d.Due s i later (d.stage s i))

include timely passed due

theorem Timely.pass : Timely d { s with now := later } := by
  refine ⟨timely.begins, fun i there => ?_, due⟩
  obtain ⟨last, since, past⟩ := timely.arrived i there
  exact ⟨last, since, Nat.le_trans past passed⟩

theorem Filling.pass (filling : Filling d s holder began) :
    Filling d { s with now := later } holder began := by
  refine ⟨filling.entry.mono passed fun _ => id, filling.lock, Nat.le_trans filling.past passed,
    ?_, fun j other => ⟨?_, (filling.others j other).2⟩⟩
  · have holds := filling.holds
    have still := timely.still (i := holder) passed
    have due := due holder
    change Rush.Holds _ _ _ (d.stage s holder)
    generalize d.stage s holder = stage at holds still due ⊢
    cases stage with
    | granted => exact ⟨(still nofun due).trans holds.1, holds.2⟩
    | cleared => exact ⟨(still nofun due).trans holds.1, holds.2⟩
    | working asked => exact holds
    | _ => exact holds.elim
  · have queued := (filling.others j other).1
    change d.Queued _ _ _ (d.stage s j)
    generalize d.stage s j = stage at queued ⊢
    cases stage with
    | looking left => exact Nat.le_trans queued (Nat.add_le_add_right passed _)
    | _ => exact queued

theorem Filled.pass (filled : Filled d s holder run bs time) :
    Filled d { s with now := later } holder run bs time := by
  refine ⟨filled.entry, filled.told, filled.value, filled.holds,
    fun j other => ⟨?_, (filled.others j other).2⟩⟩
  have served := (filled.others j other).1
  have still := timely.still (i := j) passed
  have due := due j
  change d.Served _ _ _ _ (d.stage s j)
  generalize d.stage s j = stage at served still due ⊢
  cases stage with
  | missed => exact (still nofun due).trans served
  | contended => exact (still nofun due).trans served
  | granted => exact (still nofun due).trans served
  | looking left => exact Nat.le_trans (Nat.le_of_eq (still nofun due)) served
  | _ => exact served

theorem Era.pass (era : Era d s) : Era d { s with now := later } := by
  cases era with
  | cold cold =>
    exact .cold ⟨cold.entry.mono passed fun _ => id, cold.lock.mono passed fun _ => id,
      cold.callers⟩
  | filling filling => exact .filling (filling.pass timely passed due)
  | filled filled => exact .filled (filled.pass timely passed due)

end

end ClipFeed.Cache
