import ClipFeed.Proofs.Cache.Locking
import ClipFeed.Proofs.Cache.Memory
import ClipFeed.Proofs.Service.Transparency
import ClipFeed.Proofs.Store.Records
import ClipFeed.Proofs.Video.Freshness
/-!
Operations on single videos, one after another. Between two of them every entry of the cache is the
record that the store has at that time, so that a cache changes nothing but how often the store is
asked.
-/

namespace ClipFeed.Video

open Text Cache Dialogue

inductive Operation where
  | detail (id : Int64)
  | publish (submission : Submission)
  | change (made : Change)
  deriving DecidableEq, Repr

namespace Operation

@[reducible] def Outcome : Operation → Type
  | .detail _ => Except Failure Video
  | .publish _ => Except Failure Video
  | .change _ => Except Failure Unit

instance : (o : Operation) → DecidableEq o.Outcome
  | .detail _ => inferInstanceAs (DecidableEq (Except Failure Video))
  | .publish _ => inferInstanceAs (DecidableEq (Except Failure Video))
  | .change _ => inferInstanceAs (DecidableEq (Except Failure Unit))

def action (s : Service) : (o : Operation) → Action o.Outcome
  | .detail id => s.detail id
  | .publish submission => Service.publish submission
  | .change made => made.action s

end Operation

/-- Whether bytes under the name of a video can only be read as the record that a store has. -/
def Current (store : FixedStore) (name : String) (bs : Bytes) : Prop :=
  ∀ id v, name = (Key.video id).name → codec.decode bs = .ok v → store (.find id) = .ok (some v)

private theorem current_of_encode {store : FixedStore} {id : Int64} {v : Video} {bs : Bytes}
    (stored : store (.find id) = .ok (some v)) (encoded : codec.encode v = .ok bs) :
    Current store (Key.video id).name bs := by
  intro other w same decoded
  obtain rfl := Key.video.inj (Key.eq_of_name_eq trivial trivial same)
  have faithful := faithful_codec v bs encoded
  rw [decoded] at faithful
  obtain rfl := Except.ok.inj faithful
  exact stored

/-- The tokens of locks are nobody's record. -/
theorem current_of_namesLock {store : FixedStore} {name : String} (lock : NamesLock name)
    (bs : Bytes) : Current store name bs := by
  intro id v same _
  rw [same] at lock
  exact absurd lock (not_namesLock_name _)

private theorem Current.of_found {store store' : FixedStore} {name : String} {bs : Bytes}
    (current : Current store name bs)
    (kept : ∀ id v, name = (Key.video id).name → store (.find id) = .ok (some v) →
      store' (.find id) = .ok (some v)) : Current store' name bs := by
  intro id v same decoded
  exact kept id v same (current id v same decoded)

/-- Whether the entries of a backend are up to date, that of one video perhaps excepted. -/
def UpToDate (store : FixedStore) (except : Option Int64) (b : Backend) : Prop :=
  ∀ m, b.entries? = some m → ∀ name e, m.entry? name = some e →
    (∀ id ∈ except, name ≠ (Key.video id).name) → Current store name e.bytes

section

variable {store : FixedStore} {except : Option Int64} {b : Backend}

private theorem upToDate_empty : UpToDate store except (.memory .empty) := by
  intro m same name e present
  obtain rfl := Option.some.inj same
  cases present

theorem upToDate_disabled : UpToDate store except .disabled := by
  intro m same
  cases same

/-- A call leaves entries up to date if it stores nothing but records and tokens. -/
theorem UpToDate.perform (upToDate : UpToDate store except b) {call : Call} (now : Span)
    (fills : ∀ name bs ttl, call = .set name bs ttl → Current store name bs)
    (locks : ∀ name token ttl, call = .setIfAbsent name token ttl → NamesLock name) :
    UpToDate store except (b.perform now call).2 := by
  cases b with
  | disabled => exact upToDate_disabled
  | memory m =>
    intro m' same name e present apart
    obtain rfl := Option.some.inj same
    rcases Memory.entry?_behind_perform present with ⟨before, _⟩ | ⟨bs, ttl, rfl, rfl⟩ |
      ⟨token, ttl, rfl, rfl⟩
    · exact upToDate m rfl name e before apart
    · exact fills name bs ttl rfl
    · exact current_of_namesLock (locks name token ttl rfl) _

/-- Behind an eviction the entry of the video is up to date again, for there is none. -/
theorem UpToDate.evicted {id : Int64} (upToDate : UpToDate store (some id) b) (now : Span) :
    UpToDate store none (b.perform now (.delete (Key.video id).name)).2 := by
  cases b with
  | disabled => exact upToDate_disabled
  | memory m =>
    intro m' same name e present _
    obtain rfl := Option.some.inj same
    obtain ⟨apart, before⟩ := Memory.entry?_of_erase present
    apply upToDate m rfl name e before
    rintro _ ⟨⟩
    exact apart

theorem UpToDate.hit (upToDate : UpToDate store none b) {now : Span} {name : String} {bs : Bytes}
    (found : (b.perform now (.get name)).1 = some bs) : Current store name bs := by
  cases b with
  | disabled => cases found
  | memory m =>
    obtain ⟨e, present, rfl, _⟩ := Memory.entry?_of_get found
    exact upToDate m rfl name e present nofun

end

/-- What is asked while a record is read: nothing changes the store, only records are put in
entries, and only locks are taken. -/
def AsksRecord (store : FixedStore) : Effect → Prop
  | .cache _ (.set name bs _) => Current store name bs
  | .cache _ (.setIfAbsent name ..) => NamesLock name
  | .store call => ∃ id, call = .find id
  | _ => True

def HearsRecord (store : FixedStore) : (q : Effect) → q.Answer → Prop
  | .cache _ (.get name), .answered (some bs) => Current store name bs
  | .store call, a => a = store call
  | _, _ => True

/-- Records as they are for records as they are. -/
def recordwise (store : FixedStore) : Contract Effect Effect.Answer Unit where
  asks _ := AsksRecord store
  hears _ := HearsRecord store
  write _ _ _ := ()

private theorem find_eq_ok {store : FixedStore} {id : Int64} {v : Video} :
    store.find id = .ok v ↔ store (.find id) = .ok (some v) := by
  unfold FixedStore.find
  cases store (.find id) with
  | error fault => simp
  | ok found => cases found <;> simp

private theorem grants_recordwise (store : FixedStore) (id : Int64) :
    Grants (recordwise store) (.video id) codec (fun _ o => o = store.find id)
      (fun _ o => o = store.find id) where
  plain _ q plain := by
    cases q with
    | cache limit call =>
      cases call with
      | get name => trivial
      | _ => exact plain.elim
    | store call => exact plain.elim
    | _ => trivial
  locking _ q locking := by
    cases q with
    | cache limit call =>
      cases call with
      | setIfAbsent name token ttl => exact ⟨.video id, locking⟩
      | deleteIfEquals name token => trivial
      | _ => exact locking.elim
    | store call => exact locking.elim
    | _ => trivial
  hit _ _ _ v heard decoded := (find_eq_ok.mpr (heard id v rfl decoded)).symm
  fill _ _ v _ _ made encoded := current_of_encode (find_eq_ok.mp made.symm) encoded
  suffices_computed _ _ made := made
  lasts _ _ _ _ made := made
  lasts_computed _ _ _ _ made := made

private theorem meets_find_recordwise (store : FixedStore) (id : Int64) :
    (Service.find id).Meets (recordwise store) (fun _ o => o = store.find id) () := by
  refine ⟨⟨id, rfl⟩, ?_⟩
  rintro found told
  rw [FixedStore.find, ← told]
  rcases found with fault | _ | v <;> rfl

private theorem meets_detail_recordwise (s : Service) (store : FixedStore) (id : Int64) :
    (s.detail id).Meets (recordwise store) (fun _ o => o = store.find id) () :=
  Gateway.meets_resolve (grants_recordwise store id) s.policy fun _ =>
    meets_find_recordwise store id

/-- A cache and a store, with the number of questions that they have answered. -/
structure Desk (σ : Type) where
  asked : Nat
  backend : Backend
  stored : σ

/-- What no operation decides: the time at which each question is answered and the token that is
drawn there. -/
structure Hazard where
  clock : Nat → Span
  tokens : Nat → String

section

variable {σ : Type} (h : Hazard) (serve : Store.Serving σ)

def answer (d : Desk σ) : (q : Effect) → q.Answer × Desk σ
  | .cache _ call =>
    let reply := d.backend.perform (h.clock d.asked) call
    (.answered reply.1, ⟨d.asked + 1, reply.2, d.stored⟩)
  | .store call =>
    let reply := serve d.stored call
    (reply.1, ⟨d.asked + 1, d.backend, reply.2⟩)
  | q => (uncachedAnswer (serve.fixed d.stored) (h.tokens d.asked) q,
      ⟨d.asked + 1, d.backend, d.stored⟩)

/-- The outcomes of operations one after another, with what is left at the end. -/
def play (s : Service) (d : Desk σ) :
    List Operation → List ((o : Operation) × o.Outcome) × Desk σ
  | [] => ([], d)
  | o :: rest =>
    let (outcome, d) := (o.action s).run (answer h serve) d
    let (outcomes, d) := play s d rest
    (⟨o, outcome⟩ :: outcomes, d)

end

section

variable {σ : Type} {h g : Hazard} {serve : Store.Serving σ}

theorem UpToDate.hears {store : FixedStore} {b : Backend} (upToDate : UpToDate store none b)
    (limit now : Span) (call : Call) :
    HearsRecord store (.cache limit call) (.answered (b.perform now call).1) := by
  cases call with
  | get name =>
    cases found : (b.perform now (.get name)).1 with
    | none => trivial
    | some bs => exact upToDate.hit found
  | _ => trivial

/-- Whether a store is what it was and the entries are up to date. -/
def Keeps (serve : Store.Serving σ) (stored : σ) (d : Desk σ) : Prop :=
  d.stored = stored ∧ UpToDate (serve.fixed stored) none d.backend

/-- While a record is read, the answers are what can be counted on. -/
theorem answer_recordwise (records : Store.Records serve) {d : Desk σ} {stored : σ} {q : Effect}
    (keeps : Keeps serve stored d) (asks : AsksRecord (serve.fixed stored) q) :
    HearsRecord (serve.fixed stored) q (answer h serve d q).1 ∧
      Keeps serve stored (answer h serve d q).2 := by
  obtain ⟨rfl, upToDate⟩ := keeps
  cases q with
  | cache limit call =>
    refine ⟨upToDate.hears limit _ call, rfl, upToDate.perform _ ?_ ?_⟩
    · rintro name bs ttl rfl
      exact asks
    · rintro name token ttl rfl
      exact asks
  | store call =>
    obtain ⟨id, rfl⟩ := asks
    exact ⟨rfl, records.find d.stored id, upToDate⟩
  | _ => exact ⟨trivial, rfl, upToDate⟩

theorem run_detail (records : Store.Records serve) (s : Service) (id : Int64) {d : Desk σ}
    {stored : σ} (keeps : Keeps serve stored d) :
    ((s.detail id).run (answer h serve) d).1 = (serve.fixed stored).find id ∧
      Keeps serve stored ((s.detail id).run (answer h serve) d).2 := by
  obtain ⟨_, same, kept⟩ := Meets.run (answer h serve)
    (fun (_ : Unit) => Keeps serve stored)
    (fun _ _ _ held asks => answer_recordwise records held asks)
    keeps (meets_detail_recordwise s (serve.fixed stored) id)
  exact ⟨same, kept⟩

end

/-- Whether two desks have one store and all their entries are up to date, those of one video
perhaps excepted. -/
structure Alike {σ : Type} (serve : Store.Serving σ) (except : Option Int64) (x y : Desk σ) :
    Prop where
  stored : x.stored = y.stored
  first : UpToDate (serve.fixed x.stored) except x.backend
  second : UpToDate (serve.fixed y.stored) except y.backend

/-- What leaves the records and the entries of existing videos as they are. -/
def Quiet : Effect → Prop
  | .store (.find _) | .store (.create _) => True
  | .count _ | .log _ => True
  | _ => False

section

variable {σ : Type} {h g : Hazard} {serve : Store.Serving σ}

theorem Alike.quiet (records : Store.Records serve) {x y : Desk σ} (alike : Alike serve none x y)
    {q : Effect} (quiet : Quiet q) :
    (answer h serve x q).1 = (answer g serve y q).1 ∧
      Alike serve none (answer h serve x q).2 (answer g serve y q).2 := by
  obtain ⟨asked, backend, stored⟩ := x
  obtain ⟨rfl, first, second⟩ := alike
  match q, quiet with
  | .store (.find id), _ =>
    refine ⟨rfl, rfl, ?_, ?_⟩
    · simp only [answer, records.find]
      exact first
    · simp only [answer, records.find]
      exact second
  | .store (.create submission), _ =>
    refine ⟨rfl, rfl, ?_, ?_⟩
    · intro m same name e present apart
      exact (first m same name e present apart).of_found fun id v _ found =>
        records.create _ submission id v found
    · intro m same name e present apart
      exact (second m same name e present apart).of_found fun id v _ found =>
        records.create _ submission id v found
  | .count metric, _ => exact ⟨rfl, rfl, first, second⟩
  | .log event, _ => exact ⟨rfl, rfl, first, second⟩

/-- A dialogue that leaves everything as it is ends alike on both sides. -/
theorem twins_of_quiet (records : Store.Records serve) {α : Type} {d : Action α}
    (quiet : d.Asks Quiet) :
    Twins (answer h serve) (answer g serve) (Alike serve none) d d
      fun a b x y => a = b ∧ Alike serve none x y :=
  quiet.twins fun _ _ _ alike quiet => alike.quiet records quiet

private theorem twins_detail (records : Store.Records serve) (s : Service) (id : Int64) :
    Twins (answer h serve) (answer g serve) (Alike serve none)
      (s.detail id) (s.detail id) fun a b x y => a = b ∧ Alike serve none x y := by
  intro x y alike
  obtain ⟨same, stored, first⟩ :=
    run_detail records s id (h := h) ⟨rfl, alike.first⟩
  obtain ⟨same', stored', second⟩ :=
    run_detail records s id (h := g) ⟨rfl, alike.second⟩
  refine ⟨?_, ?_, ?_, ?_⟩
  · rw [same, same', alike.stored]
  · rw [stored, stored', alike.stored]
  · rw [stored]
    exact first
  · rw [stored']
    exact second

private theorem quiet_find (id : Int64) : (Service.find id).Asks Quiet := by
  refine ⟨trivial, ?_⟩
  rintro (fault | _ | v) _ <;> trivial

private theorem quiet_publish (submission : Submission) :
    (Service.publish submission).Asks Quiet := by
  unfold Service.publish
  split
  · trivial
  · refine ⟨trivial, ?_⟩
    rintro (fault | v) _
    · trivial
    · exact ⟨trivial, fun _ _ => trivial⟩

/-- When the store has taken a change, only the entry of the changed video may be behind. -/
theorem UpToDate.changed (records : Store.Records serve) (refuses : Store.Refuses serve)
    {stored : σ} {b : Backend} (upToDate : UpToDate (serve.fixed stored) none b)
    {call : Store.Call} {id : Int64}
    (changes : call.changes? = some id) :
    UpToDate (serve.fixed (serve stored call).2)
      ((serve stored call).1.toOption.map fun _ => id) b := by
  intro m same name e present apart
  apply (upToDate m same name e present nofun).of_found
  intro other v named found
  by_cases own : other = id
  · subst own
    cases taken : (serve stored call).1 with
    | error fault => rw [refuses _ _ _ fault changes taken, found]
    | ok a =>
      rw [taken] at apart
      exact absurd named (apart other rfl)
  · rw [records.others _ _ _ changes other own, found]

private theorem twins_changing (records : Store.Records serve) (refuses : Store.Refuses serve)
    {call : Store.Call} {id : Int64} (changes : call.changes? = some id) :
    Twins (answer h serve) (answer g serve) (Alike serve none)
      (Action.store call) (Action.store call)
      fun a b x y => a = b ∧ Alike serve (a.toOption.map fun _ => id) x y := by
  intro x y alike
  obtain ⟨asked, backend, stored⟩ := x
  obtain ⟨rfl, first, second⟩ := alike
  exact ⟨rfl, rfl, first.changed records refuses changes, second.changed records refuses changes⟩

/-- A change that the store has taken is settled by removing the entry of the video. -/
theorem twins_settle (s : Service) (id : Int64) (outcome : Except Failure Unit) :
    Twins (answer h serve) (answer g serve)
      (Alike serve (outcome.toOption.map fun _ => id)) (s.settle id outcome) (s.settle id outcome)
      fun a b x y => a = b ∧ Alike serve none x y := by
  intro x y alike
  cases outcome with
  | error failure => exact ⟨rfl, alike⟩
  | ok _ => exact ⟨rfl, alike.stored, alike.first.evicted _, alike.second.evicted _⟩

private theorem toOption_mapError {ε δ α : Type} (f : ε → δ) (o : Except ε α) :
    (o.mapError f).toOption = o.toOption := by
  cases o <;> rfl

private theorem twins_taken
    (records : Store.Records serve) (refuses : Store.Refuses serve) (s : Service)
    {call : Store.Call} {id : Int64} (changes : call.changes? = some id)
    (settling : Except Store.Fault call.Answer → Except Failure Unit)
    (reports : ∀ a, (settling a).toOption.map (fun _ => id) = a.toOption.map fun _ => id) :
    Twins (answer h serve) (answer g serve) (Alike serve none)
      (Action.store call >>= fun a => s.settle id (settling a))
      (Action.store call >>= fun a => s.settle id (settling a))
      fun a b x y => a = b ∧ Alike serve none x y := by
  refine (twins_changing records refuses changes).bind ?_
  rintro a _ x y ⟨rfl, alike⟩
  rw [← reports] at alike
  exact twins_settle s id (settling a) x y alike

/-- A change ends alike on both sides. -/
theorem twins_change (records : Store.Records serve) (refuses : Store.Refuses serve) (s : Service)
    (made : Change) :
    Twins (answer h serve) (answer g serve) (Alike serve none)
      (made.action s) (made.action s) fun a b x y => a = b ∧ Alike serve none x y := by
  cases made with
  | like id account =>
    exact twins_taken records refuses s rfl _ fun a => by rw [toOption_mapError]
  | unlike id account =>
    exact twins_taken records refuses s rfl _ fun a => by rw [toOption_mapError]
  | delete id requester =>
    refine (twins_of_quiet records (quiet_find id)).bind ?_
    rintro found _ x y ⟨rfl, alike⟩
    cases found with
    | error failure => exact ⟨rfl, alike⟩
    | ok v =>
      simp only
      split
      · exact twins_taken records refuses s rfl _ (fun a => by rw [toOption_mapError]) x y alike
      · exact ⟨rfl, alike⟩

/-- One operation ends alike on both sides. -/
theorem twins_action (records : Store.Records serve) (refuses : Store.Refuses serve) (s : Service)
    (o : Operation) :
    Twins (answer h serve) (answer g serve) (Alike serve none)
      (o.action s) (o.action s) fun a b x y => a = b ∧ Alike serve none x y := by
  cases o with
  | detail id => exact twins_detail records s id
  | publish submission => exact twins_of_quiet records (quiet_publish submission)
  | change made => exact twins_change records refuses s made

/-- Operations one after another end alike on both sides. -/
theorem play_alike (records : Store.Records serve) (refuses : Store.Refuses serve) (s : Service)
    (operations : List Operation) {x y : Desk σ} (alike : Alike serve none x y) :
    (play h serve s x operations).1 = (play g serve s y operations).1 ∧
      Alike serve none (play h serve s x operations).2
        (play g serve s y operations).2 := by
  induction operations generalizing x y with
  | nil => exact ⟨rfl, alike⟩
  | cons o rest ih =>
    obtain ⟨same, kept⟩ := twins_action records refuses s o (h := h) (g := g) x y alike
    obtain ⟨others, left⟩ := ih kept
    simp only [play, same, others]
    exact ⟨trivial, left⟩

end

/-- Operations one after another have the same outcomes over a memory as without a cache, and leave
the same store, if the store has made no change that it answers with a fault. It does not matter
what time passes and how long entries and locks live; neither has a bound here, as spans have
none. -/
theorem outcomes_eq_uncached {σ : Type} {serve : Store.Serving σ} (records : Store.Records serve)
    (refuses : Store.Refuses serve) (s : Service) (h g : Hazard) (stored : σ)
    (operations : List Operation) :
    let cached := play h serve s ⟨0, .memory .empty, stored⟩ operations
    let uncached := play g serve s ⟨0, .disabled, stored⟩ operations
    cached.1 = uncached.1 ∧ cached.2.stored = uncached.2.stored := by
  have alike : Alike serve none ⟨0, .memory .empty, stored⟩ ⟨0, .disabled, stored⟩ :=
    ⟨rfl, upToDate_empty, upToDate_disabled⟩
  obtain ⟨same, left⟩ := play_alike records refuses s operations alike (h := h) (g := g)
  exact ⟨same, left.stored⟩

/-- A video is published without a title and with one, read, liked twice by one account, read again,
and deleted by a stranger and by its author, while the clock moves by a second with every
question. -/
theorem outcomes_published_and_deleted :
    let settings := Settings.standard
    let service : Service := ⟨settings.gateway "memory", settings.detailPolicy⟩
    let submission (title : String) : Submission := ⟨7, title, none, "/p/1", "/c/1"⟩
    let video (likes : Int64) : Video :=
      ⟨1, 7, "user7", "dawn", none, "/p/1", "/c/1", likes, likes, Store.Memory.createdAt 1⟩
    let operations : List Operation :=
      [.detail 1, .publish (submission " "), .publish (submission " dawn "), .detail 1,
        .change (.like 1 2), .change (.like 1 2), .detail 1, .change (.delete 1 3),
        .change (.delete 1 7), .detail 1]
    (play ⟨(1000000 * ·), toString⟩ Store.Memory.perform service
      ⟨0, .memory .empty, ⟨[], [], []⟩⟩ operations).1 =
      [⟨.detail 1, .error .notFound⟩,
        ⟨.publish (submission " "), .error (.submission (.missing "title"))⟩,
        ⟨.publish (submission " dawn "), .ok (video 0)⟩, ⟨.detail 1, .ok (video 0)⟩,
        ⟨.change (.like 1 2), .ok ()⟩, ⟨.change (.like 1 2), .error .alreadyLiked⟩,
        ⟨.detail 1, .ok (video 1)⟩, ⟨.change (.delete 1 3), .error .forbidden⟩,
        ⟨.change (.delete 1 7), .ok ()⟩, ⟨.detail 1, .error .notFound⟩] := by
  intro settings service submission video operations
  obtain ⟨same, _⟩ := outcomes_eq_uncached Store.Memory.records Store.Memory.refuses service
    ⟨(1000000 * ·), toString⟩ ⟨(1000000 * ·), toString⟩ ⟨[], [], []⟩ operations
  rw [same]
  decide +kernel

/-- Where a like is made but its reply is lost, nothing is evicted, and the entry goes on showing
the record as it was. -/
theorem outcomes_differ_behind_lost_reply :
    let settings := Settings.standard
    let service : Service := ⟨settings.gateway "memory", settings.detailPolicy⟩
    let video (likes : Int64) : Video :=
      ⟨1, 7, "ada", "dawn", none, "/p/1", "/c/1", likes, likes, .utc 0⟩
    let hazard : Hazard := ⟨(1000000 * ·), toString⟩
    let outcomes (b : Backend) := (play hazard Store.Memory.performUnheard service
      ⟨0, b, ⟨[video 0], [], []⟩⟩ [.detail 1, .change (.like 1 2), .detail 1]).1
    let lost : Failure := .store (.persistence "connection reset")
    Store.Records Store.Memory.performUnheard ∧
    outcomes (.memory .empty) = [⟨.detail 1, .ok (video 0)⟩, ⟨.change (.like 1 2), .error lost⟩,
      ⟨.detail 1, .ok (video 0)⟩] ∧
    outcomes .disabled = [⟨.detail 1, .ok (video 0)⟩, ⟨.change (.like 1 2), .error lost⟩,
      ⟨.detail 1, .ok (video 1)⟩] := by
  intro settings service video hazard outcomes lost
  have cached : outcomes (.memory .empty) = [⟨.detail 1, .ok (video 0)⟩,
      ⟨.change (.like 1 2), .error lost⟩, ⟨.detail 1, .ok (video 0)⟩] := by
    decide +kernel
  have uncached : outcomes .disabled = [⟨.detail 1, .ok (video 0)⟩,
      ⟨.change (.like 1 2), .error lost⟩, ⟨.detail 1, .ok (video 1)⟩] := by
    decide +kernel
  exact ⟨Store.Memory.records_performUnheard, cached, uncached⟩

end ClipFeed.Video
