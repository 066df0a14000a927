import ClipFeed.Proofs.Cache.Gateway
import ClipFeed.Proofs.Cache.Outline
import ClipFeed.Proofs.Dialogue.Transcript
import Mathlib.Logic.ExistsUnique
/-!
The course of a resolution: which calls it makes of the cache, when its computation is run, and what
its outcome is then, whatever comes back from the calls. What the computation asks is told apart
from what the resolution asks itself.
-/

namespace ClipFeed.Cache

open Text

abbrev Operation := (call : Call) × Reply call.Answer

namespace Operation

def ofExchange? : Exchange → Option Operation
  | ⟨.cache _ call, reply⟩ => some ⟨call, reply⟩
  | _ => none

def looked (key : Key) (r : Reply (Option Bytes)) : Operation := ⟨.get key.name, r⟩

def locked (key : Key) (policy : Policy) (token : String) (r : Reply Bool) : Operation :=
  ⟨.setIfAbsent key.lockName token policy.lockTtl, r⟩

def filled (key : Key) (policy : Policy) (fill : Bytes × Reply Unit) : Operation :=
  ⟨.set key.name fill.1 policy.ttl, fill.2⟩

def released (lock : Lock) (r : Reply Bool) : Operation := ⟨.deleteIfEquals lock.key lock.token, r⟩

/-- What came back from the lookups. -/
def lookups (ops : List Operation) : List (Reply (Option Bytes)) :=
  ops.filterMap fun
    | ⟨.get _, r⟩ => some r
    | _ => none

/-- What was to be stored, by name, with its lifetime. -/
def stores (ops : List Operation) : List (String × Bytes × Span) :=
  ops.filterMap fun
    | ⟨.set name bs ttl, _⟩ => some (name, bs, ttl)
    | _ => none

section

variable (key : Key) (policy : Policy) (ops : List Operation)

@[simp] theorem lookups_nil : lookups [] = [] := rfl

@[simp] theorem lookups_append (more : List Operation) :
    lookups (ops ++ more) = lookups ops ++ lookups more :=
  List.filterMap_append

@[simp] theorem lookups_looked (r : Reply (Option Bytes)) :
    lookups (looked key r :: ops) = r :: lookups ops := rfl

@[simp] theorem lookups_locked (token : String) (r : Reply Bool) :
    lookups (locked key policy token r :: ops) = lookups ops := rfl

@[simp] theorem lookups_filled (fill : Option (Bytes × Reply Unit)) :
    lookups (fill.toList.map (filled key policy)) = [] := by
  cases fill <;> rfl

@[simp] theorem lookups_released (lock? : Option Lock) (r : Reply Bool) :
    lookups (lock?.toList.map (released · r)) = [] := by
  cases lock? <;> rfl

@[simp] theorem lookups_map_looked (rs : List (Reply (Option Bytes))) :
    lookups (rs.map (looked key)) = rs := by
  induction rs with
  | nil => rfl
  | cons r rs ih => simp [ih]

@[simp] theorem stores_nil : stores [] = [] := rfl

@[simp] theorem stores_append (more : List Operation) :
    stores (ops ++ more) = stores ops ++ stores more :=
  List.filterMap_append

@[simp] theorem stores_looked (r : Reply (Option Bytes)) :
    stores (looked key r :: ops) = stores ops := rfl

@[simp] theorem stores_locked (token : String) (r : Reply Bool) :
    stores (locked key policy token r :: ops) = stores ops := rfl

@[simp] theorem stores_filled (fill : Option (Bytes × Reply Unit)) :
    stores (fill.toList.map (filled key policy)) =
      fill.toList.map fun kept => (key.name, kept.1, policy.ttl) := by
  cases fill <;> rfl

@[simp] theorem stores_released (lock? : Option Lock) (r : Reply Bool) :
    stores (lock?.toList.map (released · r)) = [] := by
  cases lock? <;> rfl

@[simp] theorem stores_map_looked (rs : List (Reply (Option Bytes))) :
    stores (rs.map (looked key)) = [] := by
  induction rs with
  | nil => rfl
  | cons r rs ih => simp [ih]

end

end Operation

open Operation

/-- The ways of a resolution: the entry was found at once, the lock was granted, another caller had
it, or the attempt to take it failed. -/
inductive Way where
  | found
  | granted
  | contended
  | refused

/-- Whether the calls of a resolution are those of its way, in their order. -/
inductive Way.Describes (key : Key) (policy : Policy) (polls : Nat) :
    Way → List Operation → Prop where
  | found (r : Reply (Option Bytes)) : Way.found.Describes key policy polls [looked key r]
  | granted (r s : Reply (Option Bytes)) (token : String) (fill : Option (Bytes × Reply Unit))
      (gone : Reply Bool) : Way.granted.Describes key policy polls
        ([looked key r, locked key policy token (.answered true), looked key s] ++
          fill.toList.map (filled key policy) ++ [released ⟨key.lockName, token⟩ gone])
  | contended (r : Reply (Option Bytes)) (token : String) (late : List (Reply (Option Bytes)))
      (few : late.length ≤ polls) (fill : Option (Bytes × Reply Unit)) :
      Way.contended.Describes key policy polls
        ([looked key r, locked key policy token (.answered false)] ++ late.map (looked key) ++
          fill.toList.map (filled key policy))
  | refused (r : Reply (Option Bytes)) (token : String) (s : Reply Bool)
      (fails : ∀ b, s ≠ .answered b) :
      Way.refused.Describes key policy polls [looked key r, locked key policy token s]

theorem Way.Describes.unique {key : Key} {policy : Policy} {polls : Nat} {ops : List Operation}
    {way other : Way} (first : way.Describes key policy polls ops)
    (second : other.Describes key policy polls ops) : other = way := by
  generalize same : ops = calls at second
  cases first <;> cases second <;> try rfl
  all_goals simp [looked, locked] at same
  case contended.refused fails => exact (fails _ same.2.1.2.symm).elim
  case refused.contended fails _ _ _ _ _ => exact (fails _ same.2.1.2).elim

variable {α ε : Type}

/-- Whether a lookup shows no value. -/
def Codec.Blank (codec : Codec α) (r : Reply (Option Bytes)) : Prop :=
  ∀ v, codec.sight r ≠ .value v

section Course

variable (codec : Codec α) (key : Key) (policy : Policy) (polls : Nat)

/-- The calls of a caller that has the lock and has not looked again. -/
def Holding (lock : Lock) (ops : List Operation) : Prop :=
  ∃ r, codec.Blank r ∧ lock.key = key.lockName ∧
    ops = [looked key r, locked key policy lock.token (.answered true)]

/-- The calls of a caller that found the lock taken and may look for the entry so many times. -/
def Waiting (left : Nat) (ops : List Operation) : Prop :=
  ∃ r token, ∃ late : List (Reply (Option Bytes)), codec.Blank r ∧ (∀ s ∈ late, codec.Blank s) ∧
    late.length + left = polls ∧
    ops = [looked key r, locked key policy token (.answered false)] ++ late.map (looked key)

/-- The calls ahead of a lookup. -/
def Sought : Look → List Operation → Prop
  | .first, ops => ops = []
  | .again lock, ops => Holding codec key policy lock ops
  | .late left, ops => Waiting codec key policy polls (left + 1) ops

/-- The calls ahead of a computation, by where it takes place. -/
def Ahead : Place → List Operation → Prop
  | .under lock, ops => ∃ before s, Holding codec key policy lock before ∧ codec.Blank s ∧
    ops = before ++ [looked key s]
  | .behind, ops => Waiting codec key policy polls 0 ops
  | .apart, ops => ∃ r token s, codec.Blank r ∧ (∀ b, s ≠ .answered b) ∧
    ops = [looked key r, locked key policy token s]

/-- The call that stores what was computed, if there is one. -/
inductive Fill : Place → Except ε α → Option (Bytes × Reply Unit) → Prop where
  | stored {place : Place} {v : α} {bs : Bytes} {r : Reply Unit} (fills : place ≠ .apart)
      (encoded : codec.encode v = .ok bs) : Fill place (.ok v) (some (bs, r))
  | unwritten {place : Place} {v : α} {reason : String} (encoded : codec.encode v = .error reason) :
      Fill place (.ok v) none
  | failed {place : Place} {failure : ε} : Fill place (.error failure) none
  | apart {o : Except ε α} : Fill .apart o none

/-- The calls up to where the outcome is settled, which may be under a lock, with the outcome of the
computation if there was one. -/
inductive Settled : Option Lock → List Operation → Option (Except ε α) → Except ε α → Prop where
  | found {look : Look} {ops : List Operation} {s : Reply (Option Bytes)} {v : α}
      (sought : Sought codec key policy polls look ops) (seen : codec.sight s = .value v) :
      Settled look.lock? (ops ++ [looked key s]) none (.ok v)
  | computed {place : Place} {ops : List Operation} {o : Except ε α}
      {fill : Option (Bytes × Reply Unit)} (ahead : Ahead codec key policy polls place ops)
      (fills : Fill codec place o fill) :
      Settled place.lock? (ops ++ fill.toList.map (filled key policy)) (some o) o

/-- The calls of a whole resolution, with the outcome of the computation if there was one, and what
is returned: once the outcome is settled, a lock that was taken is released. -/
def Course (ops : List Operation) (made : Option (Except ε α)) (o : Except ε α) : Prop :=
  ∃ lock? before gone, Settled codec key policy polls lock? before made o ∧
    ops = before ++ lock?.toList.map (released · gone)

/-- What was asked of the cache up to a point, and whether the computation is over by then. -/
def Led : Point α ε → List Operation → Option (Except ε α) → Prop
  | .looking look, ops, made => Sought codec key policy polls look ops ∧ made = none
  | .missed, ops, made => (∃ r, codec.Blank r ∧ ops = [looked key r]) ∧ made = none
  | .drawn _, ops, made => (∃ r, codec.Blank r ∧ ops = [looked key r]) ∧ made = none
  | .granted lock, ops, made => Holding codec key policy lock ops ∧ made = none
  | .polling left, ops, made => Waiting codec key policy polls left ops ∧ made = none
  | .ready place, ops, made => Ahead codec key policy polls place ops ∧ made = none
  | .worked place o, ops, made => Ahead codec key policy polls place ops ∧ made = some o
  | .closing lock o, ops, made => Settled codec key policy polls (some lock) ops made o
  | .yielded lock o, ops, made => Settled codec key policy polls (some lock) ops made o
  | .ended o, ops, made => Course codec key policy polls ops made o
  | .counting _ p, ops, made => Led p ops made
  | .noting p, ops, made => Led p ops made

end Course

variable {codec : Codec α} {key : Key} {policy : Policy} {polls : Nat} {ops : List Operation}
  {made : Option (Except ε α)} {o : Except ε α}

private theorem Holding.stores_eq {lock : Lock} (holding : Holding codec key policy lock ops) :
    stores ops = [] := by
  obtain ⟨r, _, _, rfl⟩ := holding
  simp

private theorem Waiting.stores_eq {left : Nat} (waiting : Waiting codec key policy polls left ops) :
    stores ops = [] := by
  obtain ⟨r, token, late, _, _, _, rfl⟩ := waiting
  simp

private theorem Sought.stores_eq {look : Look} (sought : Sought codec key policy polls look ops) :
    stores ops = [] := by
  cases look with
  | first =>
    obtain rfl := sought
    rfl
  | again lock => exact Holding.stores_eq sought
  | late left => exact Waiting.stores_eq sought

private theorem Ahead.stores_eq {place : Place} (ahead : Ahead codec key policy polls place ops) :
    stores ops = [] := by
  cases place with
  | under lock =>
    obtain ⟨before, s, holding, _, rfl⟩ := ahead
    simp [holding.stores_eq]
  | behind => exact Waiting.stores_eq ahead
  | apart =>
    obtain ⟨r, token, s, _, _, rfl⟩ := ahead
    simp

theorem Ahead.blank {place : Place} (ahead : Ahead codec key policy polls place ops) :
    ∀ s ∈ lookups ops, codec.Blank s := by
  cases place with
  | under lock =>
    obtain ⟨_, s, ⟨r, first, _, rfl⟩, again, rfl⟩ := ahead
    simp [first, again]
  | behind =>
    obtain ⟨r, token, late, first, blanks, _, rfl⟩ := ahead
    simpa [first] using blanks
  | apart =>
    obtain ⟨r, token, s, first, _, rfl⟩ := ahead
    simp [first]

private theorem Ahead.tried_iff {place : Place} (ahead : Ahead codec key policy polls place ops) :
    (∃ token b, locked key policy token (.answered b) ∈ ops) ↔ place ≠ .apart := by
  cases place with
  | under lock =>
    obtain ⟨_, s, ⟨r, _, _, rfl⟩, _, rfl⟩ := ahead
    exact iff_of_true ⟨lock.token, true, by simp⟩ nofun
  | behind =>
    obtain ⟨r, token, late, _, _, _, rfl⟩ := ahead
    exact iff_of_true ⟨token, false, by simp⟩ nofun
  | apart =>
    obtain ⟨r, token, s, _, failed, rfl⟩ := ahead
    refine iff_of_false ?_ (· rfl)
    rintro ⟨other, b, tried⟩
    simp only [looked, locked, List.mem_cons, List.not_mem_nil, or_false] at tried
    obtain tried | tried := tried
    · cases tried
    · cases tried
      exact failed b rfl

private theorem Fill.stored_iff {place : Place} {fill : Option (Bytes × Reply Unit)}
    (fills : Fill codec place o fill) {bs : Bytes} :
    (∃ r, (bs, r) ∈ fill) ↔ (∃ v, o = .ok v ∧ codec.encode v = .ok bs) ∧ place ≠ .apart := by
  cases fills with
  | stored fills encoded => simp [encoded, fills, eq_comm]
  | unwritten encoded => simp [encoded]
  | failed => simp
  | apart => simp

/-- The calls of a resolution go one of the ways. -/
theorem Course.way (course : Course codec key policy polls ops made o) :
    ∃! way : Way, way.Describes key policy polls ops := by
  have goes : ∃ way : Way, way.Describes key policy polls ops := by
    obtain ⟨_, _, gone, settled, rfl⟩ := course
    cases settled with
    | @found look ops s v sought seen =>
      cases look with
      | first =>
        obtain rfl := sought
        exact ⟨_, .found s⟩
      | again lock =>
        obtain ⟨name, token⟩ := lock
        obtain ⟨r, _, ⟨⟩, rfl⟩ := sought
        exact ⟨_, .granted r s token none gone⟩
      | late left =>
        obtain ⟨r, token, late, _, _, count, rfl⟩ := sought
        refine ⟨.contended, ?_⟩
        have few : (late ++ [s]).length ≤ polls := by
          simp only [List.length_append, List.length_singleton]
          omega
        simpa [Look.lock?] using Way.Describes.contended r token (late ++ [s]) few none
    | @computed place ops o fill ahead fills =>
      cases place with
      | under lock =>
        obtain ⟨name, token⟩ := lock
        obtain ⟨_, s, ⟨r, _, ⟨⟩, rfl⟩, _, rfl⟩ := ahead
        exact ⟨_, .granted r s token fill gone⟩
      | behind =>
        obtain ⟨r, token, late, _, _, count, rfl⟩ := ahead
        refine ⟨.contended, ?_⟩
        simpa [Place.lock?] using Way.Describes.contended r token late (by omega) fill
      | apart =>
        obtain ⟨r, token, s, _, failed, rfl⟩ := ahead
        have unfilled : fill = none := by
          cases fills with
          | stored fills _ => exact absurd rfl fills
          | unwritten _ => rfl
          | failed => rfl
          | apart => rfl
        obtain rfl := unfilled
        exact ⟨_, .refused r token s failed⟩
  obtain ⟨way, describes⟩ := goes
  exact ⟨way, describes, fun _ other => describes.unique other⟩

/-- Without a computation the last lookup has shown what is returned. -/
theorem Course.found (course : Course codec key policy polls ops none o) :
    ∃ bs v, (lookups ops).getLast? = some (.answered (some bs)) ∧ codec.decode bs = .ok v ∧
      o = .ok v := by
  obtain ⟨_, _, gone, settled, rfl⟩ := course
  cases settled with
  | found sought seen =>
    obtain ⟨bs, rfl, decoded⟩ := Codec.sight_eq_value.mp seen
    exact ⟨bs, _, by simp, decoded, rfl⟩

/-- A computation comes behind blank lookups only, and its outcome is returned. -/
theorem Course.computed {r : Except ε α} (course : Course codec key policy polls ops (some r) o) :
    o = r ∧ ∀ s ∈ lookups ops, codec.Blank s := by
  obtain ⟨_, _, gone, settled, rfl⟩ := course
  cases settled with
  | computed ahead fills => exact ⟨rfl, by simpa using ahead.blank⟩

theorem Course.none_iff (course : Course codec key policy polls ops made o) :
    made = none ↔ ∃ bs v, .answered (some bs) ∈ lookups ops ∧ codec.decode bs = .ok v := by
  cases made with
  | none =>
    obtain ⟨bs, v, last, decoded, _⟩ := course.found
    exact iff_of_true rfl ⟨bs, v, List.mem_of_getLast? last, decoded⟩
  | some r =>
    refine iff_of_false nofun ?_
    rintro ⟨bs, v, shown, decoded⟩
    exact course.computed.2 _ shown v (Codec.sight_eq_value.mpr ⟨bs, rfl, decoded⟩)

/-- What is stored is what was computed, in its written form and for the lifetime of the policy. -/
theorem Course.mem_stores_iff (course : Course codec key policy polls ops made o) {name : String}
    {bs : Bytes} {ttl : Span} : (name, bs, ttl) ∈ stores ops ↔ name = key.name ∧ ttl = policy.ttl ∧
      (∃ v, made = some (.ok v) ∧ codec.encode v = .ok bs) ∧
      ∃ token b, locked key policy token (.answered b) ∈ ops := by
  obtain ⟨lock?, _, gone, settled, rfl⟩ := course
  cases settled with
  | found sought seen => simp [sought.stores_eq]
  | @computed place ops o fill ahead fills =>
    have tried : (∃ token b, locked key policy token (.answered b) ∈ ops ++
        fill.toList.map (filled key policy) ++ place.lock?.toList.map (released · gone)) ↔
        place ≠ .apart := by
      rw [← ahead.tried_iff]
      simp [locked, filled, released]
    rw [tried]
    simp only [Option.some.injEq]
    rw [← fills.stored_iff]
    simp only [stores_append, ahead.stores_eq, stores_filled, stores_released, List.nil_append,
      List.append_nil, List.mem_map, Option.mem_toList]
    constructor
    · rintro ⟨⟨_, r⟩, stored, ⟨⟩⟩
      exact ⟨rfl, rfl, r, stored⟩
    · rintro ⟨rfl, rfl, r, stored⟩
      exact ⟨(bs, r), stored, rfl⟩

theorem Led.look {look : Look} (s : Reply (Option Bytes))
    (led : Led codec key policy polls (.looking look) ops made) :
    Led codec key policy polls (look.next (codec.sight s)) (ops ++ [looked key s]) made := by
  obtain ⟨sought, rfl⟩ := led
  have miss (blank : codec.Blank s) :
      Led codec key policy polls (look.miss : Point α ε) (ops ++ [looked key s]) none := by
    cases look with
    | first =>
      obtain rfl := sought
      exact ⟨⟨s, blank, rfl⟩, rfl⟩
    | again lock => exact ⟨⟨ops, s, sought, blank, rfl⟩, rfl⟩
    | late left =>
      obtain ⟨r, token, late, first, blanks, count, rfl⟩ := sought
      refine ⟨⟨r, token, late ++ [s], first, ?_, ?_, ?_⟩, rfl⟩
      · simpa [or_imp, forall_and] using ⟨blanks, blank⟩
      · simp only [List.length_append, List.length_singleton]
        omega
      · simp
  cases seen : codec.sight s with
  | value v =>
    have settled := Settled.found (ε := ε) sought seen
    cases look with
    | first => exact ⟨none, _, .silent, settled, by simp⟩
    | again lock => exact settled
    | late left => exact ⟨none, _, .silent, settled, by simp⟩
  | nothing => exact miss fun v => by simp [seen]
  | fault => exact miss fun v => by simp [seen]

/-- The attempt to take the lock decides the way. -/
theorem Led.lock {token : String} (s : Reply Bool)
    (led : Led codec key policy polls (.drawn token) ops made) :
    Led codec key policy polls (.attempted polls ⟨key.lockName, token⟩ s)
      (ops ++ [locked key policy token s]) made := by
  obtain ⟨⟨r, blank, rfl⟩, rfl⟩ := led
  rcases s with (_ | _) | fault | _
  · exact ⟨⟨r, token, [], blank, nofun, Nat.zero_add _, rfl⟩, rfl⟩
  · exact ⟨⟨r, blank, rfl, rfl⟩, rfl⟩
  · exact ⟨⟨r, token, .failed fault, blank, nofun, rfl⟩, rfl⟩
  · exact ⟨⟨r, token, .silent, blank, nofun, rfl⟩, rfl⟩

theorem Led.past {β : Type} {p : Point α ε} (r : Reply β)
    (led : Led codec key policy polls p ops made) :
    Led codec key policy polls (p.past r) ops made := by
  cases r <;> exact led

theorem Led.after {place : Place} {fill : Option (Bytes × Reply Unit)}
    (led : Led codec key policy polls (.worked place o) ops made)
    (fills : Fill codec place o fill) : Led codec key policy polls (place.after o)
      (ops ++ fill.toList.map (filled key policy)) made := by
  obtain ⟨ahead, rfl⟩ := led
  have settled := Settled.computed ahead fills
  cases place with
  | under lock => exact settled
  | behind => exact ⟨none, _, .silent, settled, by simp⟩
  | apart => exact ⟨none, _, .silent, settled, by simp⟩

theorem Led.release {lock : Lock} (r : Reply Bool)
    (led : Led codec key policy polls (.yielded lock o) ops made) :
    Led codec key policy polls (.released o r) (ops ++ [released lock r]) made := by
  have ended : Course codec key policy polls (ops ++ [released lock r]) made o :=
    ⟨some lock, ops, r, led, rfl⟩
  rcases r with (_ | _) | fault | _ <;> exact ended

/-- What a resolution asks itself: its own calls under the time limit of the gateway, its pauses,
and what nobody else sees. -/
def Gateway.Own (g : Gateway) : Effect → Prop
  | .cache limit _ => limit = g.opTimeout
  | .sleep span => span = g.pollInterval
  | .lockToken | .hold _ | .unhold | .count _ | .log _ => True
  | _ => False

/-- The transcript of a resolution, told apart: what it asked itself before and after its
computation, and, if that was run, what was asked in it and what came of it. -/
structure Account (α ε : Type) where
  before : List Exchange
  computed : Option (List Exchange × Except ε α)
  after : List Exchange

namespace Account

def own (a : Account α ε) : List Exchange := a.before ++ a.after

def whole (a : Account α ε) : List Exchange := a.before ++ a.computed.elim [] (·.1) ++ a.after

def operations (a : Account α ε) : List Operation := a.own.filterMap ofExchange?

def add (a : Account α ε) (x : Exchange) : Account α ε := { a with after := a.after ++ [x] }

def compute (a : Account α ε) (during : List Exchange) (o : Except ε α) : Account α ε :=
  ⟨a.own, some (during, o), []⟩

@[simp] theorem own_add (a : Account α ε) (x : Exchange) : (a.add x).own = a.own ++ [x] := by
  simp [own, add]

@[simp] theorem whole_add (a : Account α ε) (x : Exchange) : (a.add x).whole = a.whole ++ [x] := by
  simp [whole, add]

@[simp] theorem operations_add (a : Account α ε) (x : Exchange) :
    (a.add x).operations = a.operations ++ (ofExchange? x).toList := by
  simp only [operations, own_add, List.filterMap_append]
  cases told : ofExchange? x <;> simp [told]

@[simp] theorem own_compute (a : Account α ε) (during : List Exchange) (o : Except ε α) :
    (a.compute during o).own = a.own := by
  simp [own, compute]

@[simp] theorem operations_compute (a : Account α ε) (during : List Exchange) (o : Except ε α) :
    (a.compute during o).operations = a.operations := by
  simp [operations]

private theorem whole_compute
    {a : Account α ε} (uncomputed : a.computed = none) (during : List Exchange)
    (o : Except ε α) : (a.compute during o).whole = a.whole ++ during := by
  simp [whole, compute, own, uncomputed]

/-- Whether an account tells how a resolution came to a point. -/
structure Tells (g : Gateway) (codec : Codec α) (key : Key) (policy : Policy)
    (compute : Action (Except ε α)) (a : Account α ε) (p : Point α ε) (t : List Exchange) :
    Prop where
  whole : a.whole = t
  own : ∀ x ∈ a.own, g.Own x.1
  ran : ∀ during r, a.computed = some (during, r) → compute.Ends during r
  led : Led codec key policy g.pollAttempts p a.operations (a.computed.map (·.2))

variable {g : Gateway} {compute : Action (Except ε α)} {a : Account α ε} {p : Point α ε}
  {t : List Exchange}

theorem tells_start : (⟨[], none, []⟩ : Account α ε).Tells g codec key policy compute
    (.looking .first) [] where
  whole := rfl
  own := fun _ none => absurd none List.not_mem_nil
  ran := by
    rintro _ _ ⟨⟩
  led := ⟨rfl, rfl⟩

theorem Tells.add {next : Point α ε} (tells : a.Tells g codec key policy compute p t)
    {x : Exchange} (own : g.Own x.1)
    (goes : Led codec key policy g.pollAttempts next (a.operations ++ (ofExchange? x).toList)
      (a.computed.map (·.2))) :
    (a.add x).Tells g codec key policy compute next (t ++ [x]) where
  whole := by rw [whole_add, tells.whole]
  own := by simpa [or_imp, forall_and, own] using tells.own
  ran := tells.ran
  led := by
    rw [operations_add]
    exact goes

/-- What is not asked of the cache leaves the calls as they are. -/
theorem Tells.aside {next : Point α ε} (tells : a.Tells g codec key policy compute p t)
    {x : Exchange} (own : g.Own x.1) (aside : ofExchange? x = none)
    (goes : Led codec key policy g.pollAttempts next a.operations (a.computed.map (·.2))) :
    (a.add x).Tells g codec key policy compute next (t ++ [x]) :=
  tells.add own (by simpa [aside] using goes)

theorem Tells.goesOn {next : Point α ε} (tells : a.Tells g codec key policy compute p t)
    (goes : Led codec key policy g.pollAttempts next a.operations (a.computed.map (·.2))) :
    a.Tells g codec key policy compute next t :=
  { tells with led := goes }

/-- What is asked in the computation is told behind what was asked before it. -/
theorem Tells.worked {place : Place} (tells : a.Tells g codec key policy compute (.ready place) t)
    {during : List Exchange} (ended : compute.Ends during o) :
    (a.compute during o).Tells g codec key policy compute (.counting .compute (.worked place o))
      (t ++ during) := by
  obtain ⟨ahead, unmade⟩ := tells.led
  refine ⟨?_, ?_, ?_, ?_⟩
  · rw [whole_compute (Option.map_eq_none_iff.mp unmade), tells.whole]
  · simpa using tells.own
  · rintro _ _ ⟨⟩
    exact ended
  · exact ⟨by simpa using ahead, rfl⟩

end Account

private theorem Gateway.account_outline
    (g : Gateway) (codec : Codec α) (key : Key) (policy : Policy)
    (compute : Action (Except ε α)) : Outline Contract.minutes g codec key policy compute
      fun p t => ∃ a : Account α ε, a.Tells g codec key policy compute p t where
  log event := by
    rintro ⟨a, tells⟩
    exact ⟨trivial, fun r _ => ⟨_, tells.aside trivial rfl tells.led⟩⟩
  count := by
    rintro metric p t ⟨a, tells⟩
    exact ⟨trivial, fun r _ => ⟨_, tells.aside trivial rfl tells.led⟩⟩
  look := by
    rintro look t ⟨a, tells⟩
    exact ⟨trivial, fun s _ => ⟨_, tells.add rfl (tells.led.look s)⟩⟩
  draw := by
    rintro t ⟨a, tells⟩
    exact ⟨trivial, fun r _ => ⟨_, tells.aside trivial rfl tells.led⟩⟩
  lock := by
    rintro token t ⟨a, tells⟩
    exact ⟨trivial, fun s _ => ⟨_, tells.add rfl (tells.led.lock s)⟩⟩
  hold := by
    rintro lock t ⟨a, tells⟩
    exact ⟨trivial, fun r _ => ⟨_, tells.aside trivial rfl tells.led⟩⟩
  sleep := by
    rintro left t ⟨a, tells⟩
    exact ⟨trivial, fun r _ => ⟨_, tells.aside rfl rfl tells.led⟩⟩
  giveUp := by
    rintro t ⟨a, tells⟩
    exact ⟨a, tells.goesOn tells.led⟩
  compute := by
    rintro place t ⟨a, tells⟩
    apply (compute.meets_minutes t).imp
    rintro _ o ⟨during, ended, rfl⟩
    exact ⟨_, tells.worked ended⟩
  fill := by
    rintro place v bs t fills ⟨a, tells⟩ encoded
    have stored (r : Reply Unit) := tells.led.after (.stored (r := r) fills encoded)
    exact ⟨trivial, fun r _ => ⟨_, tells.add rfl ((stored r).past r)⟩⟩
  unwritten := by
    rintro place v reason t fills ⟨a, tells⟩ encoded
    exact ⟨a, tells.goesOn (by simpa [Led] using tells.led.after (.unwritten encoded))⟩
  failed := by
    rintro place failure t ⟨a, tells⟩
    exact ⟨a, tells.goesOn (by simpa using tells.led.after .failed)⟩
  leave := by
    rintro o t ⟨a, tells⟩
    exact ⟨a, tells.goesOn (by simpa [Place.after] using tells.led.after .apart)⟩
  unhold := by
    rintro lock o t ⟨a, tells⟩
    exact ⟨trivial, fun r _ => ⟨_, tells.aside trivial rfl tells.led⟩⟩
  release := by
    rintro lock o t ⟨a, tells⟩
    exact ⟨trivial, fun r _ => ⟨_, tells.add rfl (tells.led.release r)⟩⟩

/-- Every call of a resolution looks for the entry, fills it or is about the lock. -/
theorem Way.Describes.calls {way : Way} (describes : way.Describes key policy polls ops)
    {op : Operation} (member : op ∈ ops) : (∃ r, op = looked key r) ∨
      op.1.key = key.lockName ∧ (∀ name, op.1 ≠ .get name) ∨
      ∃ fill, op = filled key policy fill := by
  cases describes with
  | found r =>
    exact .inl ⟨r, List.mem_singleton.mp member⟩
  | granted r s token fill gone =>
    simp only [List.mem_append, List.mem_cons, List.not_mem_nil, or_false, List.mem_map,
      Option.mem_toList] at member
    rcases member with ((rfl | rfl | rfl) | ⟨stored, _, rfl⟩) | rfl
    · exact .inl ⟨r, rfl⟩
    · exact .inr (.inl ⟨rfl, nofun⟩)
    · exact .inl ⟨s, rfl⟩
    · exact .inr (.inr ⟨stored, rfl⟩)
    · exact .inr (.inl ⟨rfl, nofun⟩)
  | contended r token late few fill =>
    simp only [List.mem_append, List.mem_cons, List.not_mem_nil, or_false, List.mem_map,
      Option.mem_toList] at member
    rcases member with ((rfl | rfl) | ⟨s, _, rfl⟩) | ⟨stored, _, rfl⟩
    · exact .inl ⟨r, rfl⟩
    · exact .inr (.inl ⟨rfl, nofun⟩)
    · exact .inl ⟨s, rfl⟩
    · exact .inr (.inr ⟨stored, rfl⟩)
  | refused r token s fails =>
    simp only [List.mem_cons, List.not_mem_nil, or_false] at member
    rcases member with rfl | rfl
    · exact .inl ⟨r, rfl⟩
    · exact .inr (.inl ⟨rfl, nofun⟩)

theorem Operation.mem_lookups {ops : List Operation} {r : Reply (Option Bytes)} :
    r ∈ lookups ops ↔ ∃ name, ⟨.get name, r⟩ ∈ ops := by
  constructor
  · intro shown
    obtain ⟨op, made, same⟩ := List.mem_filterMap.mp shown
    split at same
    · next name _ =>
      obtain rfl := Option.some.inj same
      exact ⟨name, made⟩
    · cases same
  · rintro ⟨name, made⟩
    exact List.mem_filterMap.mpr ⟨_, made, rfl⟩

theorem Account.asked_of_mem (a : Account α ε) {op : Operation} (made : op ∈ a.operations) :
    ∃ limit, (⟨.cache limit op.1, op.2⟩ : Exchange) ∈ a.whole := by
  obtain ⟨x, own, told⟩ := List.mem_filterMap.mp made
  have member : x ∈ a.whole := by
    simp only [Account.own, Account.whole, List.mem_append] at own ⊢
    exact own.elim (fun before => .inl (.inl before)) .inr
  unfold ofExchange? at told
  split at told
  · obtain rfl := Option.some.inj told
    exact ⟨_, member⟩
  · cases told

/-- What is asked in a resolution is asked by itself or by its computation. -/
theorem Account.mem_whole_iff (a : Account α ε) {x : Exchange} :
    x ∈ a.whole ↔ x ∈ a.own ∨ ∃ during r, a.computed = some (during, r) ∧ x ∈ during := by
  cases computed : a.computed with
  | none => simp [Account.whole, Account.own, computed]
  | some outcome =>
    obtain ⟨during, r⟩ := outcome
    simp only [Account.whole, Account.own, computed, Option.elim_some, List.mem_append,
      Option.some.injEq, Prod.mk.injEq]
    constructor
    · rintro ((before | inside) | after)
      · exact .inl (.inl before)
      · exact .inr ⟨during, r, ⟨rfl, rfl⟩, inside⟩
      · exact .inl (.inr after)
    · rintro ((before | after) | ⟨_, _, ⟨rfl, rfl⟩, inside⟩)
      · exact .inl (.inl before)
      · exact .inr after
      · exact .inl (.inr inside)

/-- What a resolution does of itself, with the course that it takes. -/
theorem Gateway.exists_account {g : Gateway} {compute : Action (Except ε α)} {xs : List Exchange}
    (ended : (g.resolve codec key policy compute).Ends xs o) :
    ∃ a : Account α ε, a.whole = xs ∧ (∀ x ∈ a.own, g.Own x.1) ∧
      (∀ during r, a.computed = some (during, r) → compute.Ends during r) ∧
      Course codec key policy g.pollAttempts a.operations (a.computed.map (·.2)) o := by
  have told := ((g.account_outline codec key policy compute).meets_resolve
    ⟨_, Account.tells_start⟩).of_ends (fun _ _ _ => trivial) ended
  rw [Contract.minutes_writeAll, List.nil_append] at told
  obtain ⟨a, tells⟩ := told
  exact ⟨a, tells.whole, tells.own, tells.ran, tells.led⟩

/-- A resolution returns what its entry shows or what its computation ends with. -/
theorem Gateway.found_or_computed {g : Gateway} {compute : Action (Except ε α)}
    {xs : List Exchange} (ended : (g.resolve codec key policy compute).Ends xs o) :
    (∃ limit bs v, (⟨.cache limit (.get key.name), .answered (some bs)⟩ : Exchange) ∈ xs ∧
      codec.decode bs = .ok v ∧ o = .ok v) ∨ ∃ during, compute.Ends during o ∧ during ⊆ xs := by
  obtain ⟨a, rfl, own, ran, course⟩ := Gateway.exists_account ended
  cases computed : a.computed with
  | none =>
    rw [computed] at course
    obtain ⟨bs, v, last, decoded, rfl⟩ := course.found
    obtain ⟨name, made⟩ := mem_lookups.mp (List.mem_of_getLast? last)
    obtain ⟨limit, asked⟩ := a.asked_of_mem made
    obtain ⟨way, describes, _⟩ := course.way
    rcases describes.calls made with ⟨r, looks⟩ | ⟨-, other⟩ | ⟨fill, fills⟩
    · obtain rfl : name = key.name := Call.get.inj (congrArg Sigma.fst looks)
      exact .inl ⟨limit, bs, v, asked, decoded, rfl⟩
    · exact absurd rfl (other name)
    · cases fills
  | some outcome =>
    obtain ⟨during, r⟩ := outcome
    rw [computed] at course
    obtain ⟨rfl, -⟩ := course.computed
    exact .inr ⟨during, ran during o computed, fun x inside =>
      a.mem_whole_iff.mpr (.inr ⟨during, o, computed, inside⟩)⟩

/-- Whatever comes back from its calls, a resolution that comes to its end goes one of the ways. It
computes at most once, and does so exactly when no lookup showed a value; then it returns what was
computed, and otherwise what the last lookup showed. It stores exactly the written form of a
computed value, unless the attempt to take the lock failed. -/
theorem Gateway.resolve_course {g : Gateway} {compute : Action (Except ε α)} {xs : List Exchange}
    (ended : (g.resolve codec key policy compute).Ends xs o) :
    ∃ a : Account α ε, a.whole = xs ∧ (∀ x ∈ a.own, g.Own x.1) ∧
      (∃! way : Way, way.Describes key policy g.pollAttempts a.operations) ∧
      (a.computed = none ↔
        ∃ bs v, .answered (some bs) ∈ lookups a.operations ∧ codec.decode bs = .ok v) ∧
      (∀ during r, a.computed = some (during, r) → compute.Ends during r ∧ o = r) ∧
      (a.computed = none → ∃ bs v, (lookups a.operations).getLast? = some (.answered (some bs)) ∧
        codec.decode bs = .ok v ∧ o = .ok v) ∧
      ∀ name bs ttl, (name, bs, ttl) ∈ stores a.operations ↔ name = key.name ∧ ttl = policy.ttl ∧
        (∃ v, (∃ during, a.computed = some (during, .ok v)) ∧ codec.encode v = .ok bs) ∧
        ∃ token b, locked key policy token (.answered b) ∈ a.operations := by
  obtain ⟨a, whole, own, ran, course⟩ := Gateway.exists_account ended
  refine ⟨a, whole, own, course.way, ?_, ?_, ?_, ?_⟩
  · simpa using course.none_iff
  · intro during r computed
    rw [computed] at course
    exact ⟨ran during r computed, course.computed.1⟩
  · intro uncomputed
    rw [uncomputed] at course
    exact course.found
  · intro name bs ttl
    simpa using course.mem_stores_iff

/-- A resolution that is shown nothing, finds the lock taken, is shown what cannot be read and
stores in vain what it computes. -/
theorem Gateway.resolve_course_of_contended :
    let g : Gateway := ⟨"memory", 5, 1, 2⟩
    let codec : Codec Bytes := ⟨.ok, fun bs => if bs.isEmpty then .error "empty" else .ok bs⟩
    let compute : Action (Except String Bytes) := do
      Action.ask (.note "compute")
      return .ok [7]
    let xs : List Exchange := [
      ⟨.cache 5 (.get "video:detail:id=1"), .answered none⟩,
      ⟨.count .miss, ()⟩,
      ⟨.log ⟨.debug, Gateway.target, "cache lookup",
        [("cache_key", .text "video:detail:id=1"), ("result", .quoted "miss")]⟩, ()⟩,
      ⟨.lockToken, "t"⟩,
      ⟨.cache 5 (.setIfAbsent "lock:video:detail:id=1" "t" 3), .answered false⟩,
      ⟨.count .lockContended, ()⟩,
      ⟨.sleep 2, ()⟩,
      ⟨.cache 5 (.get "video:detail:id=1"), .answered (some [])⟩,
      ⟨.count .error, ()⟩,
      ⟨.log ⟨.debug, Gateway.target, "cache operation failed; treating as miss",
        [("cache_key", .text "video:detail:id=1"), ("op", .quoted "decode"),
          ("error", .text (Fault.codec "empty").message)]⟩, ()⟩,
      ⟨.count .fallback, ()⟩,
      ⟨.log ⟨.debug, Gateway.target, "lock holder did not backfill in time; computing directly",
        [("cache_key", .text "video:detail:id=1"), ("attempts", .number 1)]⟩, ()⟩,
      ⟨.note "compute", ()⟩,
      ⟨.count .compute, ()⟩,
      ⟨.cache 5 (.set "video:detail:id=1" [7] 9), .silent⟩,
      ⟨.count .error, ()⟩,
      ⟨.log ⟨.warn, Gateway.target, "cache backfill failed",
        [("cache_key", .text "video:detail:id=1"), ("backend", .quoted "memory"),
          ("op", .quoted "set"), ("error", .text (Fault.timeout "set").message)]⟩, ()⟩]
    (g.resolve codec (.video 1) ⟨9, 3⟩ compute).Ends xs (.ok [7]) ∧
      ∃ a : Account Bytes String, a.whole = xs ∧ ∃! way : Way,
        way.Describes (.video 1) ⟨9, 3⟩ 1 a.operations := by
  intro g codec compute xs
  have ended : (g.resolve codec (.video 1) ⟨9, 3⟩ compute).Ends xs (.ok [7]) := by
    repeat constructor
  obtain ⟨a, whole, _, way, _⟩ := Gateway.resolve_course ended
  exact ⟨ended, a, whole, way⟩

end ClipFeed.Cache
