import ClipFeed.Proofs.Cache.Crowd
/-!
Locks in a crowd. A lock that has not expired is held by one caller, its entry shows the token of
that caller, and it goes away only when that caller gives it back, which every caller does on its
way out.
-/

namespace ClipFeed.Cache

open Text

section Callers

variable {ι : Type} [DecidableEq ι]

/-- Callers that have not begun, around a memory in which anything may be. -/
def opening (errands : ι → Errand) (now : Span) (m : Memory) : Pool ι Effect
    (fun q => Option q.Answer) (fun i => Option (errands i).Outcome) (Crowd ι) :=
  ⟨⟨now, m, fun _ => .empty⟩, fun i => (errands i).life⟩

omit [DecidableEq ι] in
theorem sound_opening (errands : ι → Errand) (now : Span) (m : Memory) :
    (opening errands now m).Sound disciplineOrDrop
      (fun s i => ((errands i).key, (s.standing i).hands)) (Guarded m fun i => (errands i).key)
      fun _ t _ => t.2.claim = none := by
  refine ⟨⟨nofun, nofun, nofun, ?_, ?_, ?_⟩, fun i => (errands i).meets_life⟩
  · rintro i lock ⟨⟨⟩, _⟩
  · intro k e live
    exact .inr live.1
  · intro k e present lives
    exact ⟨present, nofun⟩

variable {errands : ι → Errand} {now : Span} {m : Memory}
  {p : Pool ι Effect (fun q => Option q.Answer) (fun i => Option (errands i).Outcome) (Crowd ι)}

/-- At any time a lock that has not expired is held by one caller, and its entry shows the token of
that caller. A caller whose lock has expired gives back nothing, and leaves the memory as it is.
Times to live have no bound here, as spans have none. -/
theorem lock_exclusive (reached : Pool.Reaches around (opening errands now m) p) :
    let s := p.shared
    (∀ i lock, s.Claims i lock → lock.key = (errands i).key.lockName) ∧
    (∀ i j lock other, s.Holds i lock → s.Holds j other → lock.key = other.key → i = j) ∧
    (∀ i lock, s.Holds i lock → s.cache.look s.now lock.key = .live (bytes lock.token)) ∧
    ∀ i limit name token next,
      p.callers i = .ask (.cache limit (.deleteIfEquals name token)) next →
      s.Claims i ⟨name, token⟩ ∧ ((s.standing i).lapse ≤ s.now →
        s.cache.perform s.now (.deleteIfEquals name token) = (false, s.cache)) := by
  intro s
  obtain ⟨guarded, meets⟩ := (sound_opening errands now m).reaches (keeps_guarded _ _) reached
  refine ⟨fun i lock claims => (guarded.own claims).1, ?_, ?_, ?_⟩
  · intro i j lock other first second same
    have one := guarded.kept first
    rw [same, guarded.kept second] at one
    have token : bytes other.token = bytes lock.token := congrArg Entry.bytes (Option.some.inj one)
    exact guarded.alone first.1 second.1 (bytes_injective token).symm
  · intro i lock holds
    exact Memory.look_eq_live.mpr ⟨_, guarded.kept holds, holds.2, rfl⟩
  · intro i limit name token next asking
    have caller := meets i
    rw [asking] at caller
    have claims : s.Claims i ⟨name, token⟩ := caller.1
    exact ⟨claims, guarded.overdue claims⟩

/-- A lock that has not expired is held by a caller that has not come to its end, dropped callers
included as long as their release runs; or it was there from the first. Once all callers have come
to their end there is no lock with one of their tokens. All that time locks of others stay as they
are, and a lock goes away only when whoever holds it gives it back. -/
theorem no_lock_leaks (reached : Pool.Reaches around (opening errands now m) p) :
    let s := p.shared
    (∀ (k : Key) e, s.Live k.lockName e →
      (∃ i lock, s.Holds i lock ∧ lock.key = k.lockName ∧ e.bytes = bytes lock.token ∧
        p.outcome? i = none) ∨ m.entry? k.lockName = some e) ∧
    ((∀ i, p.outcome? i ≠ none) → ∀ (k : Key) e, s.Live k.lockName e →
      ∀ i, ∀ token ∈ (s.standing i).told, e.bytes ≠ bytes token) ∧
    (∀ (k : Key) e, m.entry? k.lockName = some e → s.now < e.expiresAt → s.Live k.lockName e) ∧
    ∀ p', Pool.Step around p p' → ∀ (k : Key) e, s.Live k.lockName e →
      p'.shared.now < e.expiresAt → p'.shared.Live k.lockName e ∨
      ∃ i lock, s.Holds i lock ∧ lock.key = k.lockName ∧ e.bytes = bytes lock.token ∧
        (p'.shared.standing i).hands.claim = none := by
  intro s
  have sound := (sound_opening errands now m).reaches (keeps_guarded _ _) reached
  have guarded := sound.1
  have unended {i : ι} {lock : Lock} (claims : s.Claims i lock) : p.outcome? i = none := by
    cases ended : p.outcome? i with
    | none => rfl
    | some o =>
      have unclaimed := Pool.Sound.outcome sound (Pool.outcome?_eq_some.mp ended)
      exact absurd (claims.symm.trans unclaimed) nofun
  refine ⟨?_, ?_, ?_, ?_⟩
  · intro k e live
    rcases guarded.entries live with ⟨i, lock, claims, named, rfl⟩ | foreign
    · exact .inl ⟨i, lock, ⟨claims, live.2⟩, named, rfl, unended claims⟩
    · exact .inr foreign
  · intro ended k e live
    rcases guarded.entries live with ⟨i, lock, claims, _, _⟩ | foreign
    · exact absurd (unended claims) (ended i)
    · exact (guarded.foreign foreign live.2).2
  · intro k e present lives
    exact ⟨(guarded.foreign present lives).1, lives⟩
  · intro p' step k e live lives
    cases step with
    | @answer s s' callers i q next asking a heard =>
      obtain ⟨cache, answered, rfl⟩ := heard
      have caller := sound.2 i
      simp only [asking] at caller
      rcases guarded.stays caller.1 answered live with still | ⟨lock, holds, named, equal, gone⟩
      · exact .inl ⟨still, lives⟩
      · exact .inr ⟨i, lock, holds, named, equal, by simpa using gone⟩
    | drift moved =>
      obtain ⟨later, _, rfl⟩ := moved
      exact .inl ⟨live.1, lives⟩

end Callers

/-- What is done next: a caller is answered, is told a token or is dropped, or time passes. -/
inductive Move where
  | answer (i : Bool)
  | tell (i : Bool) (token : String)
  | drop (i : Bool)
  | pass (span : Span)

namespace Crowd

def reply? (s : Crowd Bool) (move : Move) :
    (q : Effect) → Option (Option q.Answer × Memory)
  | .cache _ call =>
    let (a, m) := s.cache.perform s.now call
    some (some (.answered a), m)
  | .lockToken =>
    match move with
    | .tell _ token =>
      if (∀ i, token ∉ (s.standing i).told) ∧ ∀ x ∈ s.cache.entries, x.2.bytes ≠ bytes token then
        some (some token, s.cache)
      else none
    | _ => none
  | .probe =>
    match move with
    | .drop _ => some (none, s.cache)
    | _ => some (some (.ok ()), s.cache)
  | .sleep _ => some (some (), s.cache)
  | .hold _ => some (some (), s.cache)
  | .unhold => some (some (), s.cache)
  | .count _ => some (some (), s.cache)
  | .log _ => some (some (), s.cache)
  | _ => none

private theorem answers_of_reply? {s : Crowd Bool} {move : Move} {q : Effect} {a : Option q.Answer}
    {m : Memory} (replied : s.reply? move q = some (a, m)) : s.Answers q a m := by
  match q with
  | .cache limit call =>
    cases replied
    exact ⟨rfl, rfl⟩
  | .lockToken =>
    cases move with
    | tell i token =>
      simp only [reply?] at replied
      split at replied
      · next fresh =>
        cases replied
        refine ⟨⟨fresh.1, ?_⟩, rfl⟩
        intro key e live
        exact fresh.2 (key.lockName, e) (Memory.mem_of_lookup live.1)
      · cases replied
    | answer _ | drop _ | pass _ => cases replied
  | .probe =>
    cases move with
    | drop _ =>
      cases replied
      exact ⟨trivial, rfl⟩
    | answer _ | tell _ _ | pass _ =>
      cases replied
      rfl
  | .sleep _ | .hold _ | .unhold | .count _ | .log _ =>
    cases replied
    rfl

end Crowd

variable {errands : Bool → Errand}

abbrev Rivals (errands : Bool → Errand) := Pool Bool Effect (fun q => Option q.Answer)
  (fun i => Option (errands i).Outcome) (Crowd Bool)

/-- The callers behind a reply to one of them, which is left out if it is not possible. -/
def replyTo (i : Bool) (move : Move) (p : Rivals errands) : Rivals errands :=
  match p.callers i with
  | .done _ => p
  | .ask q next =>
    match p.shared.reply? move q with
    | none => p
    | some (a, m) =>
      ⟨⟨p.shared.now, m, Function.update p.shared.standing i
        ((p.shared.standing i).after p.shared.now q a)⟩, Function.update p.callers i (next a)⟩

def Move.make (p : Rivals errands) : Move → Rivals errands
  | pass span => { p with shared := { p.shared with now := p.shared.now + span } }
  | answer i => replyTo i (.answer i) p
  | tell i token => replyTo i (.tell i token) p
  | drop i => replyTo i (.drop i) p

private theorem reaches_replyTo (i : Bool) (move : Move) (p : Rivals errands) :
    Pool.Reaches around p (replyTo i move p) := by
  obtain ⟨s, callers⟩ := p
  unfold replyTo
  simp only
  split
  · exact .refl
  · next q next asking =>
    split
    · exact .refl
    · next a m answered =>
      exact .single (.answer i asking a ⟨m, Crowd.answers_of_reply? answered, rfl⟩)

private theorem reaches_moves (p : Rivals errands) (moves : List Move) :
    Pool.Reaches around p (moves.foldl Move.make p) := by
  induction moves generalizing p with
  | nil => exact .refl
  | cons move moves ih =>
    refine Relation.ReflTransGen.trans ?_ (ih (move.make p))
    cases move with
    | pass span => exact .single (.drift ⟨_, Nat.le_add_right .., rfl⟩)
    | answer i => exact reaches_replyTo i _ p
    | tell i token => exact reaches_replyTo i _ p
    | drop i => exact reaches_replyTo i _ p

def Move.answers (n : Nat) (i : Bool) : List Move := List.replicate n (.answer i)

def brief : Visit where
  Value := Bytes
  Failure := Unit
  gateway := ⟨"memory", 5, 1, 2⟩
  codec := ⟨.ok, .ok⟩
  key := .video 1
  policy := ⟨9, 3⟩
  compute := do
    let _ ← Action.ask .probe
    return .ok [7]
  aside := ⟨trivial, fun _ _ => trivial⟩

instance : DecidableEq (Errand.resolve brief).Outcome :=
  inferInstanceAs (DecidableEq (Except Unit Bytes))

def rivals : Rivals fun _ => .resolve brief :=
  opening _ 0 ⟨[("lock:video:detail:id=2", ⟨bytes "x", 100⟩)]⟩

/-- One caller still computes when its lock expires; the other takes the lock, and then the first
wants to give it back. -/
def overtaken : Rivals fun _ => .resolve brief :=
  (Move.answers 3 false ++ [Move.tell false "a"] ++ Move.answers 4 false ++ [Move.pass 4] ++
    Move.answers 3 true ++ [Move.tell true "b"] ++ Move.answers 2 true ++
    Move.answers 4 false).foldl Move.make rivals

/-- What the overtaken caller gives back is not the lock of the other. -/
theorem lock_exclusive_of_overtaken : Pool.Reaches around rivals overtaken ∧
    overtaken.shared.cache.look overtaken.shared.now "lock:video:detail:id=1" =
      .live (bytes "b") ∧
    overtaken.shared.cache.perform overtaken.shared.now
      (.deleteIfEquals "lock:video:detail:id=1" "a") = (false, overtaken.shared.cache) := by
  have reached : Pool.Reaches around rivals overtaken := reaches_moves rivals _
  obtain ⟨-, -, shown, refused⟩ := lock_exclusive reached
  have holds : overtaken.shared.Holds true ⟨"lock:video:detail:id=1", "b"⟩ :=
    ⟨by decide +kernel, by decide +kernel⟩
  obtain ⟨next, asking⟩ := Pool.question?_eq_some.mp
    (show overtaken.question? false =
      some (.cache 5 (.deleteIfEquals "lock:video:detail:id=1" "a")) by decide +kernel)
  exact ⟨reached, shown true _ holds, (refused false 5 _ _ next asking).2 (by decide +kernel)⟩

/-- One caller is dropped while it computes, its release runs, and the other comes to its end. -/
def settled : Rivals fun _ => .resolve brief :=
  (Move.answers 3 false ++ [Move.tell false "a"] ++ Move.answers 4 false ++ [Move.drop false] ++
    Move.answers 1 false ++ Move.answers 3 true ++ [Move.tell true "b"] ++
    Move.answers 9 true).foldl Move.make rivals

/-- Nobody is left with a lock, and the lock of the other key is still there. -/
theorem no_lock_leaks_of_drop : Pool.Reaches around rivals settled ∧
    settled.outcome? false = some none ∧ settled.outcome? true = some (some (.ok [7])) ∧
    (∀ (k : Key) e, settled.shared.Live k.lockName e → e.bytes ≠ bytes "a" ∧ e.bytes ≠ bytes "b") ∧
    settled.shared.Live (Key.video 2).lockName ⟨bytes "x", 100⟩ := by
  have reached : Pool.Reaches around rivals settled := reaches_moves rivals _
  obtain ⟨-, unheld, foreign, -⟩ := no_lock_leaks reached
  have dropped : settled.outcome? false = some none := by decide +kernel
  have ended : settled.outcome? true = some (some (.ok [7])) := by decide +kernel
  have all (i : Bool) : settled.outcome? i ≠ none := by
    cases i
    · simp [dropped]
    · simp [ended]
  refine ⟨reached, dropped, ended, ?_, foreign _ _ (by decide +kernel) (by decide +kernel)⟩
  intro k e live
  exact ⟨unheld all k e live false "a" (by decide +kernel),
    unheld all k e live true "b" (by decide +kernel)⟩

end ClipFeed.Cache
