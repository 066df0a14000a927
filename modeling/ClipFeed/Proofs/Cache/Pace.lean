import ClipFeed.Proofs.Cache.Rush
/-!
The pace of a rush. An answer is read off the diaries alone: where it leaves its caller, what it
adds to a computation and until when it lets time pass. Whoever keeps to the course is never
overdue.
-/

namespace ClipFeed.Cache

open Text

variable {ι α ε : Type} {d : Demand ι α ε} {s s' : Rush ι} {i : ι}

def Rush.runs (s : Rush ι) (i : ι) : List (Span × List Exchange) := Cache.runs (s.diaries i)

def Demand.stage (d : Demand ι α ε) (s : Rush ι) (i : ι) : Stage :=
  Cache.stage d.gateway.pollAttempts (s.diaries i)

/-- What an answer makes of a rush. -/
structure Step (d : Demand ι α ε) (s s' : Rush ι) (i : ι) (q : Effect) (a : q.Answer) : Prop where
  ripe : ∀ last ∈ s.since i, ∀ span ∈ takes q, last + span ≤ s.now
  early : s.diaries i = [] → ∀ time, s.Filled d.key.name time → s.now < time + d.policy.ttl
  cache : d.Answers s q a s'.cache
  now : s'.now = s.now
  since : s'.since i = some s.now
  stage : d.stage s' i = (d.stage s i).after d.gateway.pollAttempts q a
  runs : s'.runs i = runsAfter (s.runs i) s.now q a
  others : ∀ j, j ≠ i → s'.diaries j = s.diaries j
  told : (s.now, ⟨q, a⟩) ∈ s'.diaries i
  filled : ∀ name time, s.Filled name time → s'.Filled name time

theorem step_of_hears [DecidableEq ι] {q : Effect} {a : q.Answer} (heard : d.Hears s i q a s') :
    Step d s s' i q a := by
  obtain ⟨ripe, early, m, answered, rfl⟩ := heard
  refine ⟨ripe, early, answered, rfl, ?_, ?_, ?_, ?_, ?_, ?_⟩
  · simp [Rush.since, since?]
  · simp [Demand.stage, Cache.stage]
  · simp [Rush.runs, Cache.runs]
  · intro j other
    simp [other]
  · simp
  · rintro name time ⟨j, filled⟩
    refine ⟨j, ?_⟩
    by_cases same : j = i
    · subst same
      simp only [Function.update_self, fillings, List.filterMap_append]
      exact List.mem_append_left _ filled
    · simpa [same] using filled

namespace Step

variable {q : Effect} {a : q.Answer} {j : ι} (step : Step d s s' i q a)

include step

theorem stage_other (other : j ≠ i) : d.stage s' j = d.stage s j := by
  rw [Demand.stage, step.others j other, Demand.stage]

theorem since_other (other : j ≠ i) : s'.since j = s.since j := by
  rw [Rush.since, step.others j other, Rush.since]

theorem runs_other (other : j ≠ i) : s'.runs j = s.runs j := by
  rw [Rush.runs, step.others j other, Rush.runs]

theorem quiet (quiet : ∀ limit call, q ≠ .cache limit call) {t : ι × Stage} :
    d.course.hears t q a ∧ s'.cache = s.cache := by
  have answered := step.cache
  match q with
  | .cache limit call => exact absurd rfl (quiet limit call)
  | .store _ | .probe | .sleep _ | .note _ | .count _ | .log _ | .lockToken | .requestId
  | .hold _ | .unhold => exact answered

end Step

/-- What a caller at a stage may ask for. -/
inductive Deed (d : Demand ι α ε) (i : ι) : Stage → Effect → Prop where
  | look {stage : Stage} (looks : stage.Looks) (limit : Span) :
    Deed d i stage (.cache limit (.get d.key.name))
  | lock (limit : Span) (token : String) :
    Deed d i .missed (.cache limit (.setIfAbsent d.key.lockName token d.policy.lockTtl))
  | fill {asked : List Exchange} {v : α} {bs : Bytes} (ended : (d.work i).Ends asked (.ok v))
    (decoded : d.codec.decode bs = .ok v) (limit : Span) :
    Deed d i (.working asked) (.cache limit (.set d.key.name bs d.policy.ttl))
  | unlock (bs : Bytes) (limit : Span) (token : String) :
    Deed d i (.settled bs) (.cache limit (.deleteIfEquals d.key.lockName token))
  | compute (asked : List Exchange) {q : Effect} (waits : Waits q) : Deed d i (.working asked) q
  | rest (left : Nat) : Deed d i (.polling (left + 1)) (.sleep d.gateway.pollInterval)
  | begin (label : String) : Deed d i .cleared (.note label)
  | queue (metric : Metric) : Deed d i .contended (.count metric)
  | talk {stage : Stage} {q : Effect} (talks : stage.Talks)
    (quiet : ∀ limit call, q ≠ .cache limit call) (stays : ∀ polls a, stage.after polls q a = stage)
    (unasked : ∀ runs now a, runsAfter runs now q a = runs) : Deed d i stage q

theorem deed_of_asks {q : Effect} {stage : Stage} (asked : d.course.asks (i, stage) q) :
    Deed d i stage q := by
  match q with
  | .cache limit (.get _) =>
    obtain ⟨rfl, looks⟩ := asked
    exact .look looks limit
  | .cache limit (.setIfAbsent _ token _) =>
    obtain ⟨rfl, rfl, rfl⟩ := asked
    exact .lock limit token
  | .cache limit (.set _ bs _) =>
    obtain ⟨rfl, rfl, asked, v, rfl, ended, _, decoded⟩ := asked
    exact .fill ended decoded limit
  | .cache limit (.deleteIfEquals _ token) =>
    obtain ⟨rfl, bs, rfl⟩ := asked
    exact .unlock bs limit token
  | .cache _ (.delete _) => exact asked.elim
  | .store _ | .probe =>
    obtain ⟨asked, rfl⟩ := asked
    exact .compute asked trivial
  | .sleep _ =>
    obtain ⟨asked, rfl⟩ | ⟨rfl, left, rfl⟩ := asked
    · exact .compute asked trivial
    · exact .rest left
  | .note label =>
    obtain rfl := asked
    exact .begin label
  | .count metric =>
    by_cases contended : stage = .contended
    · subst contended
      exact .queue metric
    · exact .talk asked nofun (fun _ _ => Demand.counted_of_ne contended) fun _ _ _ => rfl
  | .log _ | .lockToken | .hold _ | .unhold =>
    exact .talk asked nofun (fun _ _ => rfl) fun _ _ _ => rfl
  | .requestId => exact asked.elim

theorem quiet_of_waits {q : Effect} (waits : Waits q) (limit : Span) (call : Call) :
    q ≠ .cache limit call := by
  rintro rfl
  exact waits

theorem after_of_waits {q : Effect} (waits : Waits q) (polls : Nat) (asked : List Exchange)
    (a : q.Answer) : (Stage.working asked).after polls q a = .working (asked ++ [⟨q, a⟩]) := by
  match q with
  | .store _ | .probe | .sleep _ => rfl

theorem runsAfter_of_waits {q : Effect} (waits : Waits q) (runs : List (Span × List Exchange))
    (now : Span) (a : q.Answer) : runsAfter runs now q a = runsAfter.asks runs ⟨q, a⟩ := by
  match q with
  | .store _ | .probe | .sleep _ => rfl

private theorem Stage.missing_cases {stage : Stage} (looks : stage.Looks) :
    stage = .fresh ∧ stage.missing = .missed ∨ stage = .granted ∧ stage.missing = .cleared ∨
      ∃ left, stage = .looking left ∧ stage.missing = .polling left := by
  cases stage <;> first | exact looks.elim | simp [missing]

/-- Until when a caller at a stage lets time pass. -/
def Demand.Due (d : Demand ι α ε) (s : Rush ι) (i : ι) (later : Span) : Stage → Prop
  | .fresh => True
  | .settled _ => True
  | .polling _ => ∀ last ∈ s.since i, later ≤ last + d.gateway.pollInterval
  | .working _ => ∀ run ∈ (s.runs i).head?, later ≤ run.1 + d.lasts i
  | _ => ∀ last ∈ s.since i, later ≤ last

def Demand.around [DecidableEq ι] (d : Demand ι α ε) :
    Surroundings ι Effect Effect.Answer (Rush ι) where
  answers := d.Hears
  drifts s s' := ∃ later, s.now ≤ later ∧ (∀ i, d.Due s i later (d.stage s i)) ∧
    s' = { s with now := later }

/-- Only computations and polls wait. -/
theorem takes_of_asks {q : Effect} {stage : Stage} (asked : d.course.asks (i, stage) q) :
    takes q = some 0 ∨ (∃ asked, stage = .working asked) ∨
      takes q = some d.gateway.pollInterval ∧ ∃ left, stage = .polling left := by
  match q with
  | .store _ | .probe => exact .inr (.inl asked)
  | .sleep _ =>
    obtain working | ⟨rfl, left, polling⟩ := asked
    · exact .inr (.inl working)
    · exact .inr (.inr ⟨rfl, _, polling⟩)
  | .cache .. | .lockToken | .requestId | .hold _ | .unhold | .count _ | .log _ | .note _ =>
    exact .inl rfl

private theorem due_of_patient {q : Effect} {later : Span} {stage : Stage}
    (asked : d.course.asks (i, stage) q) (patient : d.Patient s i q later) :
    d.Due s i later stage := by
  have prompt (unwaiting : ∀ asked, stage ≠ .working asked)
      (unpolling : ∀ left, stage ≠ .polling left) (last : Span) (since : last ∈ s.since i) :
      later ≤ last := by
    rcases takes_of_asks asked with atOnce | ⟨_, working⟩ | ⟨_, _, polling⟩
    · exact patient.1 last since 0 atOnce
    · exact absurd working (unwaiting _)
    · exact absurd polling (unpolling _)
  cases stage with
  | fresh => trivial
  | settled bs => trivial
  | working _ => exact patient.2
  | polling left =>
    intro last since
    rcases takes_of_asks asked with atOnce | ⟨_, ⟨⟩⟩ | ⟨interval, _⟩
    · exact Nat.le_add_right_of_le (patient.1 last since 0 atOnce)
    · exact patient.1 last since _ interval
  | missed => exact prompt nofun nofun
  | contended => exact prompt nofun nofun
  | granted => exact prompt nofun nofun
  | cleared => exact prompt nofun nofun
  | looking left => exact prompt nofun nofun

/-- Whoever keeps to the course lets time pass only as its stage allows. -/
theorem step_of_turn [DecidableEq ι] {p p' : Callers ι α ε}
    (meets : ∀ i, (p.callers i).Meets d.course
      (fun t o => ∃ bs, t = (i, .settled bs) ∧ d.Reads bs o) (i, d.stage p.shared i))
    (turn : d.Turn p p') : Pool.Step d.around p p' := by
  cases turn with
  | answer i asking a heard => exact .answer i asking a heard
  | @pass s callers later passed waiting =>
    refine .drift ⟨later, passed, fun i => ?_, rfl⟩
    have caller := meets i
    simp only at caller
    cases rest : callers i with
    | done o =>
      rw [rest] at caller
      obtain ⟨bs, same, _⟩ := caller
      rw [(Prod.mk.inj same).2]
      trivial
    | ask q next =>
      rw [rest] at caller
      exact due_of_patient caller.1 (waiting i q next rest)

/-- What holds of the time of every caller. -/
structure Timely (d : Demand ι α ε) (s : Rush ι) : Prop where
  begins : ∀ i, d.stage s i = .fresh → s.diaries i = []
  arrived : ∀ i, d.stage s i ≠ .fresh → ∃ last, s.since i = some last ∧ last ≤ s.now
  due : ∀ i, d.Due s i s.now (d.stage s i)

namespace Deed

variable {polls : Nat} {stage : Stage} {q : Effect} (deed : Deed d i stage q)

include deed

private theorem after_ne_fresh (a : q.Answer) : stage.after polls q a ≠ .fresh := by
  cases deed with
  | look looks limit =>
    have missing : stage.missing ≠ .fresh := by
      rcases Stage.missing_cases looks with ⟨_, same⟩ | ⟨_, same⟩ | ⟨_, _, same⟩ <;> simp [same]
    rcases a with (_ | bs) | _ | _
    · exact missing
    · nofun
    · exact missing
    · exact missing
  | lock limit token => rcases a with (_ | _) | _ | _ <;> nofun
  | fill ended decoded limit => nofun
  | unlock bs limit token => nofun
  | compute asked waits =>
    rw [after_of_waits waits]
    nofun
  | rest left => nofun
  | begin label => nofun
  | queue metric => nofun
  | talk talks _ stays _ =>
    rw [stays]
    rintro rfl
    exact talks

/-- A computation that goes on began just now, or it is the one that went on before. -/
theorem began {a : q.Answer} {more : List Exchange} {runs : List (Span × List Exchange)}
    {now : Span} {run : Span × List Exchange} (working : stage.after polls q a = .working more)
    (last : run ∈ (runsAfter runs now q a).head?) :
    run.1 = now ∨ (∃ asked, stage = .working asked) ∧ ∃ before ∈ runs.head?, run.1 = before.1 := by
  cases deed with
  | look looks limit =>
    have missing : stage.missing ≠ .working more := by
      rcases Stage.missing_cases looks with ⟨_, same⟩ | ⟨_, same⟩ | ⟨_, _, same⟩ <;> simp [same]
    rcases a with (_ | bs) | _ | _
    · exact absurd working missing
    · cases working
    · exact absurd working missing
    · exact absurd working missing
  | lock limit token => rcases a with (_ | _) | _ | _ <;> cases working
  | fill ended decoded limit => cases working
  | unlock bs limit token => cases working
  | compute asked waits =>
    rw [runsAfter_of_waits waits] at last
    cases runs with
    | nil => cases last
    | cons before earlier =>
      cases last
      exact .inr ⟨⟨asked, rfl⟩, before, rfl, rfl⟩
  | rest left => cases working
  | begin label =>
    cases last
    exact .inl rfl
  | queue metric => cases working
  | talk talks _ stays unasked =>
    rw [unasked] at last
    exact .inr ⟨⟨more, (stays polls a).symm.trans working⟩, run, last, rfl⟩

end Deed

/-- Whoever was answered just now lets time pass, and so does its computation. -/
theorem due_of_since {stage : Stage} (since : s.since i = some s.now)
    (working : ∀ asked, stage = .working asked →
      ∀ run ∈ (s.runs i).head?, s.now ≤ run.1 + d.lasts i) : d.Due s i s.now stage := by
  have now (last : Span) (told : last ∈ s.since i) : s.now ≤ last := by
    rw [since] at told
    exact Nat.le_of_eq (Option.some.inj told)
  cases stage with
  | fresh => trivial
  | settled bs => trivial
  | working asked => exact working asked rfl
  | polling left => exact fun last told => Nat.le_add_right_of_le (now last told)
  | missed => exact now
  | contended => exact now
  | granted => exact now
  | cleared => exact now
  | looking left => exact now

/-- An answer keeps the time of all callers. -/
theorem Timely.answer {q : Effect} {a : q.Answer} (timely : Timely d s)
    (step : Step d s s' i q a) (deed : Deed d i (d.stage s i) q) : Timely d s' := by
  have arrived : d.stage s' i ≠ .fresh := by
    rw [step.stage]
    exact deed.after_ne_fresh a
  refine ⟨?_, ?_, ?_⟩
  · intro j fresh
    have other : j ≠ i := fun same => arrived (same ▸ fresh)
    rw [step.others j other]
    exact timely.begins j (step.stage_other other ▸ fresh)
  · intro j there
    rw [step.now]
    by_cases same : j = i
    · subst same
      exact ⟨s.now, step.since, Nat.le_refl _⟩
    · rw [step.since_other same]
      exact timely.arrived j (step.stage_other same ▸ there)
  · intro j
    by_cases same : j = i
    · subst same
      apply due_of_since (step.now ▸ step.since)
      intro asked working run last
      rw [step.stage] at working
      rw [step.runs] at last
      rw [step.now]
      obtain began | ⟨⟨before, computing⟩, earlier, head, began⟩ := deed.began working last
      · rw [began]
        exact Nat.le_add_right ..
      · have due := timely.due j
        rw [computing] at due
        rw [began]
        exact due earlier head
    · have due := timely.due j
      unfold Demand.Due at due ⊢
      rwa [step.stage_other same, step.now, step.since_other same, step.runs_other same]

end ClipFeed.Cache
