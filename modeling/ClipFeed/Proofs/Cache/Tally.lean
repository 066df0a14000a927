import ClipFeed.Proofs.Cache.Course
/-!
The metrics of a resolution. How often it counts each of them is fixed by what came back from its
calls and by its computation. On the way there the counts are behind by what is still to be counted,
and ahead by what is counted before its call is made.
-/

namespace ClipFeed.Cache

open Text

/-- How often a metric is counted. -/
def counts (m : Metric) (xs : List Exchange) : Nat :=
  xs.countP (·.1 = .count m)

def tick (metric m : Metric) : Nat :=
  if metric = m then 1 else 0

section

variable (m : Metric)

@[simp] theorem counts_nil : counts m [] = 0 := rfl

@[simp] theorem counts_append (xs ys : List Exchange) :
    counts m (xs ++ ys) = counts m xs + counts m ys :=
  List.countP_append

private theorem counts_singleton (metric : Metric) (a : (Effect.count metric).Answer) :
    counts m [⟨.count metric, a⟩] = tick metric m := by
  simp [counts, tick]

end

def Reply.fails {β : Type} : Reply β → Bool
  | .answered _ => false
  | .failed _ => true
  | .silent => true

variable {α ε : Type}

namespace Codec

variable (codec : Codec α)

def shows : Reply (Option Bytes) → Bool
  | .answered (some bs) => (codec.decode bs).isOk
  | _ => false

def unreadable : Reply (Option Bytes) → Bool
  | .answered (some bs) => !(codec.decode bs).isOk
  | _ => false

def unwritten : Except ε α → Bool
  | .ok v => !(codec.encode v).isOk
  | .error _ => false

variable {codec : Codec α} {v : α}

theorem shows_iff {r : Reply (Option Bytes)} :
    codec.shows r = true ↔ ∃ v, codec.sight r = .value v := by
  rcases r with (_ | bs) | fault | _
  · simp [shows, sight]
  · cases decoded : codec.decode bs <;> simp [shows, sight, decoded, Except.isOk, Except.toBool]
  · simp [shows, sight]
  · simp [shows, sight]

private theorem shows_eq_false {r : Reply (Option Bytes)} :
    codec.shows r = false ↔ codec.Blank r := by
  rw [← Bool.not_eq_true, shows_iff, not_exists]
  rfl

private theorem unwritten_of_encode {bs : Bytes} (encoded : codec.encode v = .ok bs) :
    codec.unwritten (.ok v : Except ε α) = false := by
  simp [unwritten, encoded, Except.isOk, Except.toBool]

private theorem unwritten_of_error {reason : String} (failed : codec.encode v = .error reason) :
    codec.unwritten (.ok v : Except ε α) = true := by
  simp [unwritten, failed, Except.isOk, Except.toBool]

end Codec

namespace Operation

/-- What came back from the attempts to take a lock. -/
def attempts (ops : List Operation) : List (Reply Bool) :=
  ops.filterMap fun
    | ⟨.setIfAbsent .., r⟩ => some r
    | _ => none

def granted (ops : List Operation) : Nat :=
  (attempts ops).count (.answered true)

def taken (ops : List Operation) : Nat :=
  (attempts ops).count (.answered false)

def refused (ops : List Operation) : Nat :=
  (attempts ops).countP Reply.fails

def faults (ops : List Operation) : Nat :=
  ops.countP (·.2.fails)

/-- How often a metric is counted for the calls alone. -/
def dueToCalls (codec : Codec α) (ops : List Operation) : Metric → Nat
  | .hit => (lookups ops).countP codec.shows
  | .miss => granted ops + taken ops + refused ops
  | .lockAcquired => granted ops
  | .lockContended => taken ops
  | .fallback => refused ops
  | .error => faults ops + (lookups ops).countP codec.unreadable
  | .evict => 0
  | .compute => 0

/-- How many values were to be stored and could not be written. Where no lock could be had, nothing
is stored. -/
def unwritten (codec : Codec α) (ops : List Operation) (o : Except ε α) : Nat :=
  if refused ops = 0 then (codec.unwritten o).toNat else 0

/-- How often a metric is counted because of the computation. -/
def dueToComputing (codec : Codec α) (ops : List Operation) (made : Option (Except ε α)) :
    Metric → Nat
  | .compute => made.isSome.toNat
  | .fallback => if made.isSome then taken ops else 0
  | .error => made.elim 0 (unwritten codec ops)
  | _ => 0

/-- Whether no lookup behind the first shows a value. -/
def vain (codec : Codec α) (ops : List Operation) : Bool :=
  (lookups ops).tail.all (!codec.shows ·)

end Operation

open Operation

/-- Whether this reply to the attempt to take the lock leads to a place. -/
def Place.LedBy : Place → Reply Bool → Prop
  | .under _, s => s = .answered true
  | .behind, s => s = .answered false
  | .apart, s => s.fails

def Sighting.due : Sighting α → Metric → Nat
  | .value _, m => tick .hit m
  | .nothing, _ => 0
  | .fault, m => tick .error m

/-- How often a metric is still to be counted for what came back before a point. -/
def Point.owed (codec : Codec α) : Point α ε → Metric → Nat
  | .counting metric p, m => tick metric m + p.owed codec m
  | .noting p, m => p.owed codec m
  | .granted _, m => tick .lockAcquired m
  | .worked .apart _, _ => 0
  | .worked _ o, m => (codec.unwritten o).toNat * tick .error m
  | _, _ => 0

/-- How often a metric is counted at a point for what comes back behind it. -/
def Point.ahead : Point α ε → Metric → Nat
  | .counting _ p, m => p.ahead m
  | .noting p, m => p.ahead m
  | .missed, m => tick .miss m
  | .drawn _, m => tick .miss m
  | .ready .behind, m => tick .fallback m
  | _, _ => 0

def Point.Pays (codec : Codec α) (p next : Point α ε) (due : Metric → Nat) : Prop :=
  ∀ m, next.owed codec m + p.ahead m = p.owed codec m + next.ahead m + due m

def Account.Booked (codec : Codec α) (a : Account α ε) (p : Point α ε) : Prop :=
  ∀ m, counts m a.own + p.owed codec m = p.ahead m +
    (dueToCalls codec a.operations m + dueToComputing codec a.operations (a.computed.map (·.2)) m)

namespace Operation

section

variable (key : Key) (policy : Policy) (ops : List Operation)

@[simp] theorem attempts_nil : attempts [] = [] := rfl

@[simp] theorem attempts_append (more : List Operation) :
    attempts (ops ++ more) = attempts ops ++ attempts more :=
  List.filterMap_append

@[simp] theorem attempts_looked (r : Reply (Option Bytes)) :
    attempts (looked key r :: ops) = attempts ops := rfl

@[simp] theorem attempts_locked (token : String) (s : Reply Bool) :
    attempts (locked key policy token s :: ops) = s :: attempts ops := rfl

@[simp] theorem attempts_filled (fill : Option (Bytes × Reply Unit)) :
    attempts (fill.toList.map (filled key policy)) = [] := by
  cases fill <;> rfl

@[simp] theorem attempts_released (lock? : Option Lock) (r : Reply Bool) :
    attempts (lock?.toList.map (released · r)) = [] := by
  cases lock? <;> rfl

@[simp] theorem attempts_map_looked (rs : List (Reply (Option Bytes))) :
    attempts (rs.map (looked key)) = [] := by
  induction rs with
  | nil => rfl
  | cons r rs ih => simp [ih]

end

variable {codec : Codec α} {ops more : List Operation} {made : Option (Except ε α)} {m : Metric}

private theorem dueToCalls_append :
    dueToCalls codec (ops ++ more) m = dueToCalls codec ops m + dueToCalls codec more m := by
  cases m <;> simp [dueToCalls, granted, taken, refused, faults] <;> omega

private theorem dueToComputing_append (others : attempts more = []) :
    dueToComputing codec (ops ++ more) made m = dueToComputing codec ops made m := by
  have same : attempts (ops ++ more) = attempts ops := by
    rw [attempts_append, others, List.append_nil]
  have refusals : refused (ops ++ more) = refused ops := by rw [refused, same, refused]
  have takings : taken (ops ++ more) = taken ops := by rw [taken, same, taken]
  have written (o : Except ε α) : unwritten codec (ops ++ more) o = unwritten codec ops o := by
    rw [unwritten, refusals, unwritten]
  cases made <;> cases m <;> simp [dueToComputing, takings, written]

private theorem dueToComputing_none :
    dueToComputing codec ops (none : Option (Except ε α)) m = 0 := by
  cases m <;> rfl

end Operation

section

variable {codec : Codec α} {key : Key} {policy : Policy} {polls : Nat} {ops : List Operation}
  {o : Except ε α} {m : Metric}

private theorem Ahead.attempts_eq {place : Place} (ahead : Ahead codec key policy polls place ops) :
    ∃ s, attempts ops = [s] ∧ place.LedBy s := by
  cases place with
  | under lock =>
    obtain ⟨_, _, ⟨r, _, _, rfl⟩, _, rfl⟩ := ahead
    exact ⟨.answered true, by simp, rfl⟩
  | behind =>
    obtain ⟨r, token, late, _, _, _, rfl⟩ := ahead
    exact ⟨.answered false, by simp, rfl⟩
  | apart =>
    obtain ⟨r, token, s, _, failed, rfl⟩ := ahead
    refine ⟨s, by simp, ?_⟩
    rcases s with b | fault | _
    · exact absurd rfl (failed b)
    · rfl
    · rfl

private theorem Sighting.due_sight (s : Reply (Option Bytes)) :
    (codec.sight s).due m = dueToCalls codec [looked key s] m := by
  rcases s with (_ | bs) | fault | _
  · cases m <;> rfl
  · cases decoded : codec.decode bs <;> cases m <;>
      simp [due, tick, dueToCalls, granted, taken, refused, faults, attempts, looked, lookups,
        Codec.sight, Codec.shows, Codec.unreadable, decoded, Except.isOk, Except.toBool,
        Reply.fails]
  · cases m <;> rfl
  · cases m <;> rfl

private theorem Look.pays (look : Look) (s : Reply (Option Bytes)) :
    Point.Pays codec (.looking look) (look.next (codec.sight s) : Point α ε)
      (dueToCalls codec [looked key s]) := by
  intro m
  rw [← Sighting.due_sight]
  cases codec.sight s <;> cases look <;>
    simp [next, hit, miss, Point.owed, Point.ahead, Sighting.due, Nat.add_comm]

private theorem Point.pays_attempted (token : String) (lock : Lock) (s : Reply Bool) :
    Pays codec (.drawn token) (attempted polls lock s : Point α ε)
      (dueToCalls codec [locked key policy token s]) := by
  intro m
  rcases s with (_ | _) | fault | _ <;> cases m <;> rfl

private theorem Point.pays_released (lock : Lock) (r : Reply Bool) :
    Pays codec (.yielded lock o) (released o r : Point α ε)
      (dueToCalls codec [Operation.released lock r]) := by
  intro m
  rcases r with (_ | _) | fault | _ <;> cases m <;> rfl

private theorem Place.pays_fill (key : Key) (policy : Policy) {place : Place} {v : α} {bs : Bytes}
    (encoded : codec.encode v = .ok bs) (r : Reply Unit) :
    Point.Pays codec (.worked place (.ok v)) ((place.after (.ok v)).past r : Point α ε)
      (dueToCalls codec [filled key policy (bs, r)]) := by
  intro m
  have written : (Point.worked place (.ok v) : Point α ε).owed codec m = 0 := by
    cases place <;> simp [Point.owed, Codec.unwritten_of_encode encoded]
  rw [written]
  rcases r with _ | fault | _ <;> cases place <;> cases m <;> rfl

private theorem Place.pays_unwritten
    {place : Place} {v : α} {reason : String} (fills : place ≠ .apart)
    (encoded : codec.encode v = .error reason) :
    Point.Pays codec (.worked place (.ok v))
      (.counting .error (.noting (place.after (.ok v))) : Point α ε) fun _ => 0 := by
  intro m
  cases place with
  | apart => exact absurd rfl fills
  | _ => simp [after, Point.owed, Point.ahead, Codec.unwritten_of_error encoded]

/-- What a computation makes be counted, by where it takes place. -/
theorem Ahead.dueToComputing_eq {place : Place} (ahead : Ahead codec key policy polls place ops) :
    dueToComputing codec ops (some o) m = tick .compute m +
      ((Point.worked place o).owed codec m + (Point.ready place : Point α ε).ahead m) := by
  obtain ⟨s, tried, led⟩ := ahead.attempts_eq
  cases place with
  | under lock =>
    obtain rfl := led
    cases m <;> simp [dueToComputing, unwritten, taken, refused, tried, Point.owed, Point.ahead,
      tick, Reply.fails]
  | behind =>
    obtain rfl := led
    cases m <;> simp [dueToComputing, unwritten, taken, refused, tried, Point.owed, Point.ahead,
      tick, Reply.fails]
  | apart =>
    rcases s with b | fault | _
    · cases led
    all_goals cases m <;> simp [dueToComputing, unwritten, taken, refused, tried, Point.owed,
      Point.ahead, tick, Reply.fails]

end

namespace Account

variable {codec : Codec α} {key : Key} {policy : Policy} {a : Account α ε} {p next : Point α ε}

private theorem booked_start : (⟨[], none, []⟩ : Account α ε).Booked codec (.looking .first) := by
  intro m
  cases m <;> rfl

theorem Booked.goesOn (booked : a.Booked codec p) (pays : p.Pays codec next fun _ => 0) :
    a.Booked codec next := by
  intro m
  have counted := booked m
  have pays : next.owed codec m + p.ahead m = p.owed codec m + next.ahead m := pays m
  omega

/-- What a computation makes be counted hangs on the attempts to take the lock, so none may come
behind it. -/
theorem Booked.called (booked : a.Booked codec p) {limit : Span} {call : Call}
    (r : Reply call.Answer) (early : a.computed = none ∨ attempts [⟨call, r⟩] = [])
    (pays : p.Pays codec next (dueToCalls codec [⟨call, r⟩])) :
    (a.add ⟨.cache limit call, r⟩).Booked codec next := by
  intro m
  have counted := booked m
  have pays := pays m
  have uncounted : counts m [(⟨.cache limit call, r⟩ : Exchange)] = 0 := rfl
  have operations : (a.add ⟨.cache limit call, r⟩).operations = a.operations ++ [⟨call, r⟩] :=
    operations_add ..
  have kept : (a.add ⟨.cache limit call, r⟩).computed = a.computed := rfl
  have same : dueToComputing codec (a.operations ++ [⟨call, r⟩]) (a.computed.map (·.2)) m =
      dueToComputing codec a.operations (a.computed.map (·.2)) m := by
    rcases early with uncomputed | others
    · rw [uncomputed, Option.map_none, dueToComputing_none, dueToComputing_none]
    · exact dueToComputing_append others
  rw [own_add, counts_append, uncounted, operations, dueToCalls_append, kept, same]
  omega

private theorem Booked.unseen
    (booked : a.Booked codec p) {x : Exchange} (aside : ofExchange? x = none)
    (silent : ∀ m, counts m [x] = 0) (pays : p.Pays codec next fun _ => 0) :
    (a.add x).Booked codec next := by
  intro m
  have counted := booked.goesOn pays m
  have operations : (a.add x).operations = a.operations := by simp [aside]
  rw [own_add, counts_append, silent, operations]
  exact counted

theorem Booked.counted {metric : Metric} (booked : a.Booked codec (.counting metric p))
    (r : (Effect.count metric).Answer) : (a.add ⟨.count metric, r⟩).Booked codec p := by
  intro m
  have counted : counts m a.own + (tick metric m + p.owed codec m) = p.ahead m + _ := booked m
  have operations : (a.add ⟨.count metric, r⟩).operations = a.operations := by simp [ofExchange?]
  rw [own_add, counts_append, counts_singleton, operations, Nat.add_assoc]
  exact counted

/-- A computation makes due what is counted for it, before and behind. -/
theorem Booked.worked {place : Place} {polls : Nat} (booked : a.Booked codec (.ready place))
    (uncomputed : a.computed = none) (ahead : Ahead codec key policy polls place a.operations)
    (during : List Exchange) (o : Except ε α) :
    (a.compute during o).Booked codec (.counting .compute (.worked place o)) := by
  intro m
  have counted := booked m
  have unowed : (Point.ready place : Point α ε).owed codec m = 0 := rfl
  rw [uncomputed, Option.map_none, unowed, dueToComputing_none] at counted
  have due := ahead.dueToComputing_eq (o := o) (m := m)
  have owed : (Point.counting .compute (.worked place o)).owed codec m =
      tick .compute m + (Point.worked place o).owed codec m := rfl
  have unahead : (Point.counting .compute (.worked place o)).ahead m = 0 := rfl
  have made : (a.compute during o).computed = some (during, o) := rfl
  rw [own_compute, operations_compute, made, Option.map_some, due, owed, unahead]
  omega

end Account

/-- The counts are right at every point. -/
theorem Gateway.booked_outline (g : Gateway) (codec : Codec α) (key : Key) (policy : Policy)
    (compute : Action (Except ε α)) : Outline Contract.minutes g codec key policy compute
      fun p t => ∃ a : Account α ε, a.Tells g codec key policy compute p t ∧ a.Booked codec p where
  log event := by
    rintro ⟨a, tells, booked⟩
    refine ⟨trivial, fun r _ => ⟨_, tells.aside trivial rfl tells.led, ?_⟩⟩
    exact booked.unseen rfl (fun _ => rfl) fun _ => rfl
  count := by
    rintro metric p t ⟨a, tells, booked⟩
    refine ⟨trivial, fun r _ => ⟨_, tells.aside trivial rfl tells.led, ?_⟩⟩
    exact booked.counted r
  look := by
    rintro look t ⟨a, tells, booked⟩
    refine ⟨trivial, fun s _ => ⟨_, tells.add rfl (tells.led.look s), ?_⟩⟩
    exact booked.called s (.inr rfl) (look.pays s)
  draw := by
    rintro t ⟨a, tells, booked⟩
    refine ⟨trivial, fun r _ => ⟨_, tells.aside trivial rfl tells.led, ?_⟩⟩
    exact booked.unseen rfl (fun _ => rfl) fun _ => rfl
  lock := by
    rintro token t ⟨a, tells, booked⟩
    obtain ⟨-, unmade⟩ := tells.led
    refine ⟨trivial, fun s _ => ⟨_, tells.add rfl (tells.led.lock s), ?_⟩⟩
    have uncomputed := Option.map_eq_none_iff.mp unmade
    exact booked.called s (.inl uncomputed) (Point.pays_attempted token _ s)
  hold := by
    rintro lock t ⟨a, tells, booked⟩
    refine ⟨trivial, fun r _ => ⟨_, tells.aside trivial rfl tells.led, ?_⟩⟩
    exact booked.unseen rfl (fun _ => rfl) fun _ => rfl
  sleep := by
    rintro left t ⟨a, tells, booked⟩
    refine ⟨trivial, fun r _ => ⟨_, tells.aside rfl rfl tells.led, ?_⟩⟩
    exact booked.unseen rfl (fun _ => rfl) fun _ => rfl
  giveUp := by
    rintro t ⟨a, tells, booked⟩
    exact ⟨a, tells.goesOn tells.led, booked.goesOn fun m => by simp [Point.owed, Point.ahead]⟩
  compute := by
    rintro place t ⟨a, tells, booked⟩
    apply (compute.meets_minutes t).imp
    rintro _ o ⟨during, ended, rfl⟩
    obtain ⟨ahead, unmade⟩ := tells.led
    have uncomputed := Option.map_eq_none_iff.mp unmade
    exact ⟨_, tells.worked ended, booked.worked uncomputed ahead during o⟩
  fill := by
    rintro place v bs t fills ⟨a, tells, booked⟩ encoded
    have stored (r : Reply Unit) := tells.led.after (.stored (r := r) fills encoded)
    refine ⟨trivial, fun r _ => ⟨_, tells.add rfl ((stored r).past r), ?_⟩⟩
    exact booked.called r (.inr rfl) (Place.pays_fill key policy encoded r)
  unwritten := by
    rintro place v reason t fills ⟨a, tells, booked⟩ encoded
    refine ⟨a, tells.goesOn (by simpa [Led] using tells.led.after (.unwritten encoded)), ?_⟩
    exact booked.goesOn (Place.pays_unwritten fills encoded)
  failed := by
    rintro place failure t ⟨a, tells, booked⟩
    refine ⟨a, tells.goesOn (by simpa using tells.led.after .failed), booked.goesOn fun m => ?_⟩
    cases place <;> simp [Place.after, Point.owed, Point.ahead, Codec.unwritten]
  leave := by
    rintro o t ⟨a, tells, booked⟩
    refine ⟨a, tells.goesOn (by simpa [Place.after] using tells.led.after .apart), ?_⟩
    exact booked.goesOn fun m => rfl
  unhold := by
    rintro lock o t ⟨a, tells, booked⟩
    refine ⟨trivial, fun r _ => ⟨_, tells.aside trivial rfl tells.led, ?_⟩⟩
    exact booked.unseen rfl (fun _ => rfl) fun _ => rfl
  release := by
    rintro lock o t ⟨a, tells, booked⟩
    refine ⟨trivial, fun r _ => ⟨_, tells.add rfl (tells.led.release r), ?_⟩⟩
    exact booked.called r (.inr rfl) (Point.pays_released lock r)

theorem Account.counts_whole (a : Account α ε) (m : Metric) :
    counts m a.whole = counts m a.own + counts m (a.computed.elim [] (·.1)) := by
  simp only [whole, own, counts_append]
  omega

/-- What a resolution does of itself, with the course that it takes and what it counts. -/
theorem Gateway.exists_booked_account {g : Gateway} {codec : Codec α} {key : Key} {policy : Policy}
    {compute : Action (Except ε α)} {xs : List Exchange} {o : Except ε α}
    (ended : (g.resolve codec key policy compute).Ends xs o) :
    ∃ a : Account α ε, a.whole = xs ∧ (∀ x ∈ a.own, g.Own x.1) ∧
      (∀ during r, a.computed = some (during, r) → compute.Ends during r) ∧
      Course codec key policy g.pollAttempts a.operations (a.computed.map (·.2)) o ∧
      ∀ m, counts m a.own = dueToCalls codec a.operations m +
        dueToComputing codec a.operations (a.computed.map (·.2)) m := by
  have told := ((g.booked_outline codec key policy compute).meets_resolve
    ⟨_, Account.tells_start, Account.booked_start⟩).of_ends (fun _ _ _ => trivial) ended
  rw [Contract.minutes_writeAll, List.nil_append] at told
  obtain ⟨a, tells, booked⟩ := told
  refine ⟨a, tells.whole, tells.own, tells.ran, tells.led, fun m => ?_⟩
  simpa [Point.owed, Point.ahead] using booked m

section

variable {codec : Codec α} {key : Key} {policy : Policy} {polls : Nat} {ops : List Operation}
  {made : Option (Except ε α)} {o : Except ε α}

theorem Sought.blank {look : Look} (sought : Sought codec key policy polls look ops) :
    ∀ s ∈ lookups ops, codec.Blank s := by
  cases look with
  | first =>
    obtain rfl := sought
    exact nofun
  | again lock =>
    obtain ⟨r, first, _, rfl⟩ := sought
    simpa using first
  | late left =>
    obtain ⟨r, token, late, first, blanks, _, rfl⟩ := sought
    simpa [first] using blanks

/-- Every resolution is counted once, as a hit or as a computation. -/
theorem Course.hit_or_computed (course : Course codec key policy polls ops made o) :
    (lookups ops).countP codec.shows + made.isSome.toNat = 1 := by
  obtain ⟨_, _, gone, settled, rfl⟩ := course
  cases settled with
  | @found look ops s v sought seen =>
    have blank : (lookups ops).countP codec.shows = 0 := by
      simpa [Codec.shows_eq_false] using sought.blank
    simp [blank, Codec.shows_iff.mpr ⟨v, seen⟩]
  | @computed place ops o fill ahead fills =>
    have blank : (lookups ops).countP codec.shows = 0 := by
      simpa [Codec.shows_eq_false] using ahead.blank
    simp [blank]

/-- A resolution computes behind one attempt to take the lock and lookups in vain. -/
theorem Course.attempts_of_computed {r : Except ε α}
    (course : Course codec key policy polls ops (some r) o) :
    vain codec ops = true ∧ ∃ s, attempts ops = [s] := by
  obtain ⟨_, _, gone, settled, rfl⟩ := course
  cases settled with
  | @computed place ops o fill ahead fills =>
    obtain ⟨s, tried, _⟩ := ahead.attempts_eq
    refine ⟨?_, s, by simp [tried]⟩
    have blank : ∀ s ∈ lookups ops, codec.shows s = false := by
      simpa [Codec.shows_eq_false] using ahead.blank
    simpa [vain] using fun s later => blank s (List.mem_of_mem_tail later)

/-- A resolution that found a value made no attempt to take the lock, or got a reply to it and did
not look in vain. -/
theorem Course.attempts_of_found (course : Course codec key policy polls ops none o) :
    attempts ops = [] ∨ vain codec ops = false ∧ ∃ b, attempts ops = [.answered b] := by
  obtain ⟨_, _, gone, settled, rfl⟩ := course
  cases settled with
  | @found look ops s v sought seen =>
    have shown : codec.shows s = true := Codec.shows_iff.mpr ⟨v, seen⟩
    cases look with
    | first =>
      obtain rfl := sought
      exact .inl (by simp)
    | again lock =>
      obtain ⟨r, _, _, rfl⟩ := sought
      exact .inr ⟨by simp [vain, shown], true, by simp⟩
    | late left =>
      obtain ⟨r, token, late, _, _, _, rfl⟩ := sought
      exact .inr ⟨by simp [vain, shown], false, by simp⟩

theorem Course.fallback_eq (course : Course codec key policy polls ops made o) :
    dueToCalls codec ops .fallback + dueToComputing codec ops made .fallback =
      (if taken ops = 1 ∧ vain codec ops then 1 else 0) + refused ops := by
  cases made with
  | some r =>
    obtain ⟨missed, s, tried⟩ := course.attempts_of_computed
    rcases s with (_ | _) | fault | _ <;>
      simp [dueToCalls, dueToComputing, taken, refused, tried, missed, Reply.fails]
  | none =>
    obtain untried | ⟨found, b, tried⟩ := course.attempts_of_found
    · simp [dueToCalls, dueToComputing, taken, refused, untried]
    · simp [dueToCalls, dueToComputing, found]

/-- A computation is counted for a lookup in vain under the lock, and for every fallback. -/
theorem Course.compute_eq (course : Course codec key policy polls ops made o) :
    dueToComputing codec ops made .compute =
      (if granted ops = 1 ∧ vain codec ops then 1 else 0) +
        ((if taken ops = 1 ∧ vain codec ops then 1 else 0) + refused ops) := by
  cases made with
  | some r =>
    obtain ⟨missed, s, tried⟩ := course.attempts_of_computed
    rcases s with (_ | _) | fault | _ <;>
      simp [dueToComputing, granted, taken, refused, tried, missed, Reply.fails]
  | none =>
    obtain untried | ⟨found, b, tried⟩ := course.attempts_of_found
    · simp [dueToComputing, granted, taken, refused, untried]
    · simp [dueToComputing, refused, tried, found, Reply.fails]

end

end ClipFeed.Cache
