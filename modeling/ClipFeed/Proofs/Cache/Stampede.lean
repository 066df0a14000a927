import ClipFeed.Proofs.Cache.Eras
/-!
Callers of one key that all miss. If time suffices, one of them computes, and all return what it
computed, whenever they come and in whatever order they are answered.
-/

namespace ClipFeed.Cache

open Text

variable {ι α ε : Type} {d : Demand ι α ε} {s : Rush ι} {i : ι}

def Rush.Only (s : Rush ι) (holder : ι) (run : Span × List Exchange) : Prop :=
  s.runs holder = [run] ∧ ∀ j, j ≠ holder → s.runs j = []

/-- A rush has at most one computation. -/
theorem Era.runs (era : Era d s) :
    (∀ i, s.runs i = []) ∨ ∃ holder run, s.Only holder run := by
  cases era with
  | cold cold => exact .inl fun i => (cold.callers i).2
  | @filling holder began filling =>
    have others (j : ι) (other : j ≠ holder) : s.runs j = [] := (filling.others j other).2
    have unbegun (idle : s.runs holder = []) (i : ι) : s.runs i = [] := by
      by_cases same : i = holder
      · rw [same, idle]
      · exact others i same
    have holds := filling.holds
    generalize d.stage s holder = stage at holds
    cases stage with
    | granted => exact .inl (unbegun holds.2)
    | cleared => exact .inl (unbegun holds.2)
    | working asked => exact .inr ⟨holder, (began, asked), holds, others⟩
    | _ => exact holds.elim
  | filled filled =>
    exact .inr ⟨_, _, filled.holds.2, fun j other => (filled.others j other).2⟩

/-- Nobody settles before the entry is filled, and then all settle for what it holds. -/
theorem Era.settled (era : Era d s) {bs : Bytes} (settled : d.stage s i = .settled bs) :
    ∃ holder run v, s.Only holder run ∧ (d.work holder).Ends run.2 (.ok v) ∧
      d.codec.decode bs = .ok v ∧ ∀ j found, d.stage s j = .settled found → found = bs := by
  cases era with
  | cold cold =>
    have early := (cold.callers i).1
    rw [settled] at early
    exact early.elim
  | @filling holder began filling =>
    by_cases same : i = holder
    · subst same
      have holds := filling.holds
      rw [settled] at holds
      exact holds.elim
    · have queued := (filling.others i same).1
      rw [settled] at queued
      exact queued.elim
  | @filled holder run filling time filled =>
    have all (j : ι) (found : Bytes) (settled : d.stage s j = .settled found) :
        found = filling := by
      by_cases same : j = holder
      · rw [same, filled.holds.1] at settled
        exact (Stage.settled.inj settled).symm
      · have served := (filled.others j same).1
        rw [settled] at served
        exact served
    obtain ⟨v, ended, decoded⟩ := filled.value
    obtain rfl := all i bs settled
    exact ⟨holder, run, v, ⟨filled.holds.2, fun j other => (filled.others j other).2⟩, ended,
      decoded, all⟩

section

variable [DecidableEq ι]

/-- Callers in order, each of which keeps to its course. -/
def Demand.Orderly (d : Demand ι α ε) (p : Callers ι α ε) : Prop :=
  p.Sound d.course (fun s i => (i, d.stage s i)) (fun s => Timely d s ∧ Era d s)
    fun i t o => ∃ bs, t = (i, .settled bs) ∧ d.Reads bs o

private theorem keeps_era (enough : d.Suffices) :
    Pool.Keeps d.around d.course (fun s i => (i, d.stage s i))
      (fun s => Timely d s ∧ Era d s) where
  answer := by
    rintro s s' i q a ⟨timely, era⟩ asked heard
    have step := step_of_hears heard
    have deed := deed_of_asks asked
    obtain ⟨heard, era⟩ := era.answer timely enough step deed
    exact ⟨heard, ⟨timely.answer step deed, era⟩, congrArg (i, ·) step.stage,
      fun j other => congrArg (j, ·) (step.stage_other other)⟩
  drift := by
    rintro s _ ⟨timely, era⟩ ⟨later, passed, due, rfl⟩
    exact ⟨⟨timely.pass passed due, era.pass timely passed due⟩, fun _ => rfl⟩

private theorem orderly_turn (enough : d.Suffices) {p p' : Callers ι α ε} (orderly : d.Orderly p)
    (turn : d.Turn p p') : d.Orderly p' :=
  Pool.Sound.step (keeps_era enough) orderly (step_of_turn orderly.2 turn)

variable {start : Span} {m : Memory} (enough : d.Suffices)
  (entry : ∀ e, m.entry? d.key.name = some e → e.expiresAt ≤ start)
  (lock : ∀ e, m.entry? d.key.lockName = some e → e.expiresAt ≤ start)

include enough entry lock

omit [DecidableEq ι] in
private theorem orderly_opening : d.Orderly (d.opening start m) := by
  refine ⟨⟨⟨fun _ _ => rfl, fun _ there => absurd rfl there, fun _ => trivial⟩, ?_⟩, fun i => ?_⟩
  · exact .cold ⟨entry, lock, fun _ => ⟨trivial, rfl⟩⟩
  · have polls : 0 < d.gateway.pollAttempts := by
      apply Nat.pos_of_ne_zero
      intro none
      have long := enough.inPolls i
      rw [none, Nat.zero_mul] at long
      exact Nat.not_lt_zero _ long
    exact Demand.meets_resolve polls (enough.good i)

/-- At any time at most one computation has begun. Once a caller has come to its end there is just
one, and every caller that comes to its end returns its value. Times to live have no bound here, as
spans have none. -/
theorem computed_once {p : Callers ι α ε}
    (reached : Relation.ReflTransGen d.Turn (d.opening start m) p) :
    let s := p.shared
    ((∀ i, s.runs i = []) ∨ ∃ holder run, s.Only holder run) ∧
    ((∃ i o, p.callers i = .done o) → ∃ holder run v, s.Only holder run ∧
      (d.work holder).Ends run.2 (.ok v) ∧ ∀ j o, p.callers j = .done o → o = .ok v) := by
  intro s
  have orderly : d.Orderly p := by
    induction reached with
    | refl => exact orderly_opening enough entry lock
    | tail _ turn orderly => exact orderly_turn enough orderly turn
  have era := orderly.1.2
  have settles {j : ι} {o : Except ε α} (ended : p.callers j = .done o) :
      ∃ bs, d.stage s j = .settled bs ∧ d.Reads bs o := by
    obtain ⟨bs, same, reads⟩ := Pool.Sound.outcome orderly ended
    exact ⟨bs, (Prod.mk.inj same).2, reads⟩
  refine ⟨era.runs, ?_⟩
  rintro ⟨i, o, ended⟩
  obtain ⟨bs, settled, _⟩ := settles ended
  obtain ⟨holder, run, v, only, computed, decoded, all⟩ := era.settled settled
  refine ⟨holder, run, v, only, computed, ?_⟩
  intro j o ended
  obtain ⟨found, settled, _, read, rfl⟩ := settles ended
  obtain rfl := all j found settled
  exact congrArg Except.ok (Except.ok.inj (read.symm.trans decoded))

end

/-- What is done next: a caller is answered, or time passes. -/
inductive Beat where
  | answer (i : Bool)
  | pass (span : Span)

namespace Rush

def reply? (s : Rush Bool) : (q : Effect) → Option (q.Answer × Memory)
  | .cache _ call =>
    let (a, m) := s.cache.perform s.now call
    some (.answered a, m)
  | .lockToken => some ("token", s.cache)
  | .probe => some (.ok (), s.cache)
  | .sleep _ => some ((), s.cache)
  | .hold _ => some ((), s.cache)
  | .unhold => some ((), s.cache)
  | .count _ => some ((), s.cache)
  | .log _ => some ((), s.cache)
  | .note _ => some ((), s.cache)
  | _ => none

def Ready (s : Rush Bool) (name : String) (ttl : Span) (i : Bool) (q : Effect) : Prop :=
  (∀ last ∈ s.since i, ∀ span ∈ takes q, last + span ≤ s.now) ∧
  (s.diaries i = [] → ∀ j, ∀ time ∈ fillings name (s.diaries j), s.now < time + ttl)

end Rush

private theorem hears_of_reply? {d : Demand Bool α ε} {s : Rush Bool} {i : Bool} {q : Effect}
    {a : q.Answer} {m : Memory} (ready : s.Ready d.key.name d.policy.ttl i q)
    (replied : s.reply? q = some (a, m)) : d.Hears s i q a
      ⟨s.now, m, Function.update s.diaries i (s.diaries i ++ [(s.now, ⟨q, a⟩)])⟩ := by
  refine ⟨ready.1, fun absent time => ?_, m, ?_, rfl⟩
  · rintro ⟨j, filled⟩
    exact ready.2 absent j time filled
  · match q with
    | .cache _ _ =>
      cases replied
      exact ⟨rfl, rfl⟩
    | .lockToken | .probe | .sleep _ | .hold _ | .unhold | .count _ | .log _ | .note _ =>
      cases replied
      exact ⟨trivial, rfl⟩

instance {s : Rush Bool} {name : String} {ttl : Span} {i : Bool} {q : Effect} :
    Decidable (s.Ready name ttl i q) :=
  inferInstanceAs (Decidable (_ ∧ _))

instance {d : Demand Bool α ε} {s : Rush Bool} {i : Bool} {q : Effect} {later : Span} :
    Decidable (d.Patient s i q later) :=
  inferInstanceAs (Decidable (_ ∧ _))

/-- The callers behind a reply to one of them, which is left out if it is not possible yet. -/
def Demand.reply (d : Demand Bool α ε) (i : Bool) (p : Callers Bool α ε) : Callers Bool α ε :=
  match p.callers i with
  | .done _ => p
  | .ask q next =>
    if p.shared.Ready d.key.name d.policy.ttl i q then
      match p.shared.reply? q with
      | none => p
      | some (a, m) =>
        ⟨⟨p.shared.now, m, Function.update p.shared.diaries i
          (p.shared.diaries i ++ [(p.shared.now, ⟨q, a⟩)])⟩, Function.update p.callers i (next a)⟩
    else p

def Demand.beat (d : Demand Bool α ε) (p : Callers Bool α ε) : Beat → Callers Bool α ε
  | .answer i => d.reply i p
  | .pass span =>
    if ∀ i, ∀ q ∈ p.question? i, d.Patient p.shared i q (p.shared.now + span) then
      { p with shared := { p.shared with now := p.shared.now + span } }
    else p

private theorem reaches_beats (d : Demand Bool α ε) (p : Callers Bool α ε) (beats : List Beat) :
    Relation.ReflTransGen d.Turn p (beats.foldl d.beat p) := by
  induction beats generalizing p with
  | nil => exact .refl
  | cons beat beats ih =>
    refine Relation.ReflTransGen.trans ?_ (ih (d.beat p beat))
    obtain ⟨s, callers⟩ := p
    cases beat with
    | answer i =>
      simp only [Demand.beat, Demand.reply]
      split
      · exact .refl
      · next q next asking =>
        split
        · next ready =>
          split
          · exact .refl
          · next a m replied => exact .single (.answer i asking a (hears_of_reply? ready replied))
        · exact .refl
    | pass span =>
      simp only [Demand.beat]
      split
      · next patient =>
        refine .single (.pass _ (Nat.le_add_right ..) fun i q next asking => ?_)
        exact patient i q (Pool.question?_eq_some.mpr ⟨next, asking⟩)
      · exact .refl

def brisk : Demand Bool Bytes Unit where
  gateway := ⟨"memory", 5, 4, 2⟩
  codec := ⟨.ok, .ok⟩
  key := .video 1
  policy := ⟨9, 6⟩
  answers _ _ := False
  work _ := do
    let _ ← Action.ask (.sleep 3)
    return .ok [7]
  lasts _ := 3

private theorem suffices_brisk : brisk.Suffices where
  good _ := ⟨trivial, fun _ _ => ⟨[7], [7], rfl, rfl, rfl⟩⟩
  inLock _ := (by decide : 3 < 6)
  inPolls _ := (by decide : 3 < 4 * 2)
  inEntry := by decide

def Beat.answers (n : Nat) (i : Bool) : List Beat := List.replicate n (.answer i)

/-- One caller computes, the other finds the lock taken, looks twice and finds the entry. -/
def served : Callers Bool Bytes Unit :=
  (Beat.answers 9 false ++ Beat.answers 9 true ++ [Beat.pass 2] ++ Beat.answers 3 true ++
    [Beat.pass 1] ++ Beat.answers 9 false ++ [Beat.pass 1] ++ Beat.answers 9 true).foldl
      brisk.beat (brisk.opening 0 .empty)

/-- The caller that looks twice returns what the other one has computed. -/
theorem computed_once_of_served :
    Relation.ReflTransGen brisk.Turn (brisk.opening 0 .empty) served ∧
    (∃ began, served.shared.Only false (began, [⟨.sleep 3, ()⟩])) ∧
    ∀ i, served.outcome? i = some (.ok [7]) := by
  have reached : Relation.ReflTransGen brisk.Turn (brisk.opening 0 .empty) served :=
    reaches_beats brisk _ _
  have ended (i : Bool) : ∃ o, served.callers i = .done o := by
    have finished : (served.outcome? i).isSome := by
      cases i <;> decide +kernel
    obtain ⟨o, outcome⟩ := Option.isSome_iff_exists.mp finished
    exact ⟨o, Pool.outcome?_eq_some.mp outcome⟩
  have computes : served.shared.runs false ≠ [] := by decide +kernel
  have free (name : String) (e : Entry) (present : Memory.empty.entry? name = some e) :
      e.expiresAt ≤ 0 := by
    cases present
  obtain ⟨-, once⟩ := computed_once suffices_brisk (free _) (free _) reached
  obtain ⟨holder, ⟨began, asked⟩, v, only, computed, all⟩ := once ⟨false, ended false⟩
  obtain rfl : false = holder := by
    by_contra other
    exact computes (only.2 false other)
  obtain ⟨rfl, rfl⟩ : asked = [⟨.sleep 3, ()⟩] ∧ v = [7] := by
    cases computed with
    | ask rest =>
      cases rest
      exact ⟨rfl, rfl⟩
  refine ⟨reached, ⟨began, only⟩, fun i => ?_⟩
  obtain ⟨o, ended⟩ := ended i
  exact Pool.outcome?_eq_some.mpr (ended.trans (congrArg Dialogue.done (all i o ended)))

end ClipFeed.Cache
