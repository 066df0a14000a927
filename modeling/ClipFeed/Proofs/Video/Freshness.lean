import ClipFeed.Cache.Settings
import ClipFeed.Proofs.Cache.Entry
import ClipFeed.Proofs.Cache.Gateway
import ClipFeed.Proofs.Cache.Traffic
import ClipFeed.Store.Memory
import ClipFeed.Video.Service
/-!
How old a record can be. Every change of a video is followed by an eviction of its entry, so that a
record read from the store before a change is handed out later in one way only: a reader that took
it from the store in time puts it back behind the eviction.
-/

namespace ClipFeed.Video

open Text Cache Traffic

inductive Change where
  | like (id account : Int64)
  | unlike (id account : Int64)
  | delete (id requester : Int64)
  deriving DecidableEq, Repr

namespace Change

def id : Change → Int64
  | .like id _ => id
  | .unlike id _ => id
  | .delete id _ => id

def action (s : Service) : Change → Action (Except Failure Unit)
  | .like id account => s.like id account
  | .unlike id account => s.unlike id account
  | .delete id requester => s.delete id requester

def taken : Change → Exchange
  | .like id account => ⟨.store (.like id account), .ok ()⟩
  | .unlike id account => ⟨.store (.unlike id account), .ok ()⟩
  | .delete id _ => ⟨.store (.delete id), .ok ()⟩

end Change

abbrev read (id : Int64) (v : Video) : Exchange := ⟨.store (.find id), .ok (some v)⟩

abbrev evicted (id : Int64) (limit : Span) : Exchange :=
  ⟨.cache limit (.delete (Key.video id).name), .answered ()⟩

abbrev hit (id : Int64) (limit : Span) (bs : Bytes) : Exchange :=
  ⟨.cache limit (.get (Key.video id).name), .answered (some bs)⟩

/-- Entries are filled only with what was read from the store. -/
def mayFill (diary : List Exchange) (name : String) (bs : Bytes) : Prop :=
  ∃ id v, name = (Key.video id).name ∧ read id v ∈ diary ∧ codec.encode v = .ok bs

/-- A record comes from the store or from the entry. -/
def Known (id : Int64) (diary : List Exchange) (outcome : Except Failure Video) : Prop :=
  ∀ v, outcome = .ok v →
    read id v ∈ diary ∨ ∃ limit bs, hit id limit bs ∈ diary ∧ codec.decode bs = .ok v

/-- A computed record comes from the store. -/
def Computed (id : Int64) (diary : List Exchange) (outcome : Except Failure Video) : Prop :=
  ∀ v, outcome = .ok v → read id v ∈ diary

/-- Success means that the store took the change and that the entry was removed after that. -/
def Settled (change : Change) (diary : List Exchange) (outcome : Except Failure Unit) : Prop :=
  outcome = .ok () → ∃ before limit,
    change.taken ∈ before ∧ before ++ [evicted change.id limit] <+: diary

private theorem grants_ledger (id : Int64) :
    Grants (ledger mayFill) (.video id) codec (Computed id) (Known id) where
  plain := by
    intro t q plain
    cases q with
    | cache limit call =>
      cases call with
      | get name => trivial
      | _ => exact plain.elim
    | _ => trivial
  locking := by
    intro t q locking
    cases q with
    | cache limit call =>
      cases call with
      | setIfAbsent name token ttl => exact ⟨.video id, locking⟩
      | deleteIfEquals name token => exact ⟨.video id, locking⟩
      | _ => exact locking.elim
    | _ => trivial
  hit := by
    intro t limit bs v heard decoded w same
    obtain rfl := Except.ok.inj same
    exact .inr ⟨limit, bs, by simp [ledger], decoded⟩
  fill := fun t limit v bs ttl computed encoded => ⟨id, v, rfl, computed v rfl, encoded⟩
  suffices_computed := fun t o computed v same => .inl (computed v same)
  lasts := by
    intro t q a o known v same
    rcases known v same with own | ⟨limit, bs, found, decoded⟩
    · exact .inl (List.mem_append_left _ own)
    · exact .inr ⟨limit, bs, List.mem_append_left _ found, decoded⟩
  lasts_computed := fun t q a o computed v same => List.mem_append_left _ (computed v same)

theorem meets_find (id : Int64) (t : List Exchange) :
    (Service.find id).Meets (ledger mayFill) (Computed id) t := by
  refine ⟨trivial, ?_⟩
  intro a heard
  rcases a with fault | _ | v
  · exact nofun
  · exact nofun
  · intro w same
    obtain rfl := Except.ok.inj same
    simp [ledger]

theorem meets_detail (s : Service) (id : Int64) (t : List Exchange) :
    (s.detail id).Meets (ledger mayFill) (Known id) t :=
  Gateway.meets_resolve (grants_ledger id) s.policy (meets_find id)

/-- Once the store has taken a change, only its eviction is missing. -/
theorem meets_settle (s : Service) (change : Change) {t : List Exchange}
    {outcome : Except Failure Unit} (taken : outcome = .ok () → change.taken ∈ t) :
    (s.settle change.id outcome).Meets (ledger mayFill) (Settled change) t := by
  cases outcome with
  | error failure => exact nofun
  | ok _ =>
    refine Dialogue.Meets.bind (p := fun t _ => Settled change t (.ok ())) ?_ fun _ _ settled =>
      settled
    refine ⟨trivial, ?_⟩
    intro reply heard
    obtain ⟨⟨⟩, rfl⟩ := heard
    have settled : Settled change (t ++ [evicted change.id s.gateway.opTimeout]) (.ok ()) :=
      fun _ => ⟨t, _, taken rfl, List.prefix_rfl⟩
    have lasts : (ledger mayFill).Stable fun t => Settled change t (.ok ()) := by
      intro t q a settled same
      obtain ⟨before, limit, taken, prefixed⟩ := settled same
      exact ⟨before, limit, taken, prefixed.trans (List.prefix_append ..)⟩
    exact (Dialogue.meets_request lasts (q := .count .evict) trivial settled).bind
      fun t _ settled => Dialogue.meets_request lasts trivial settled

private theorem meets_action (s : Service) (change : Change) (t : List Exchange) :
    (change.action s).Meets (ledger mayFill) (Settled change) t := by
  cases change with
  | like id account =>
    refine ⟨trivial, fun a heard => meets_settle s (.like id account) fun succeeded => ?_⟩
    rcases a with fault | ⟨⟩
    · cases succeeded
    · simp [Change.taken, ledger]
  | unlike id account =>
    refine ⟨trivial, fun a heard => meets_settle s (.unlike id account) fun succeeded => ?_⟩
    rcases a with fault | ⟨⟩
    · cases succeeded
    · simp [Change.taken, ledger]
  | delete id requester =>
    apply (meets_find id t).bind
    rintro t (failure | v) -
    · exact nofun
    · simp only
      split
      · refine ⟨trivial, fun a heard => meets_settle s (.delete id requester) fun succeeded => ?_⟩
        rcases a with fault | ⟨⟩
        · cases succeeded
        · simp [Change.taken, ledger]
      · exact nofun

section

variable {ρ κ σ : Type} [DecidableEq ρ] [DecidableEq κ]

@[reducible] def Outcome : ρ ⊕ κ → Type
  | .inl _ => Except Failure Video
  | .inr _ => Except Failure Unit

/-- Readers and changes over a memory that is still empty. -/
def opening (s : Service) (reads : ρ → Int64) (changes : κ → Change) (now : Span) (stored : σ) :
    Pool (ρ ⊕ κ) Effect Effect.Answer Outcome (Traffic (ρ ⊕ κ) σ) where
  shared := ⟨now, .empty, stored, []⟩
  callers
    | .inl reader => s.detail (reads reader)
    | .inr writer => (changes writer).action s

def promised (reads : ρ → Int64) (changes : κ → Change) :
    (i : ρ ⊕ κ) → List Exchange → Outcome i → Prop
  | .inl reader => Known (reads reader)
  | .inr writer => Settled (changes writer)

theorem sound_opening (s : Service) (reads : ρ → Int64) (changes : κ → Change) (now : Span)
    (stored : σ) : (opening s reads changes now stored).Sound (ledger mayFill)
      (fun s i => s.history.diary i) (Consistent mayFill) (promised reads changes) := by
  refine ⟨consistent_empty now stored, ?_⟩
  intro i
  cases i with
  | inl reader => exact meets_detail s (reads reader) _
  | inr writer => exact meets_action s (changes writer) _

/-- A record was read from the store in one step, put under its key in the next and found there by
a reader in the last. -/
structure Passed (history : History (ρ ⊕ κ)) (reader : ρ) (id : Int64) (v : Video)
    (n f h : Nat) : Prop where
  order : n < f ∧ f < h
  handed : ∃ j limit bs, codec.encode v = .ok bs ∧ history[n]? = some (.tells j (read id v)) ∧
    history.Fills j (Key.video id).name bs f ∧
      history[h]? = some (.tells (.inl reader) (hit id limit bs))
  untouched : history.Untouched (Key.video id).name f h

/-- The step in which a record was read from the store, by its reader or by whoever filled the entry
in which the reader found it. -/
def ReadAt (history : History (ρ ⊕ κ)) (reader : ρ) (id : Int64) (v : Video) (n : Nat) : Prop :=
  history[n]? = some (.tells (.inl reader) (read id v)) ∨ ∃ f h, Passed history reader id v n f h

omit [DecidableEq ρ] [DecidableEq κ] in
theorem ReadAt.told {history : History (ρ ⊕ κ)} {reader : ρ} {id : Int64} {v : Video} {n : Nat}
    (readAt : ReadAt history reader id v n) : ∃ j, history[n]? = some (.tells j (read id v)) := by
  rcases readAt with own | ⟨f, h, passed⟩
  · exact ⟨_, own⟩
  · obtain ⟨j, limit, bs, -, told, -⟩ := passed.handed
    exact ⟨j, told⟩

private theorem exists_readAt
    {t : Traffic (ρ ⊕ κ) σ} (consistent : Consistent mayFill t) {reader : ρ}
    {id : Int64} {v : Video} (known : Known id (t.history.diary (.inl reader)) (.ok v)) :
    ∃ n, ReadAt t.history reader id v n := by
  rcases known v rfl with own | ⟨limit, bs, found, decoded⟩
  · obtain ⟨n, present⟩ := List.mem_iff_getElem?.mp (History.mem_diary.mp own)
    exact ⟨n, .inl present⟩
  · obtain ⟨h, present⟩ := List.mem_iff_getElem?.mp (History.mem_diary.mp found)
    obtain ⟨f, j, before, filled, untouched⟩ := consistent.found present
    obtain ⟨_, _, told⟩ := filled
    obtain ⟨other, w, named, readBefore, encoded⟩ := consistent.allowed told
    obtain ⟨n, earlier, taken⟩ := History.mem_diary_take.mp readBefore
    obtain rfl := Key.video.inj (Key.eq_of_name_eq trivial trivial named)
    have faithful := faithful_codec w bs encoded
    rw [decoded] at faithful
    obtain rfl := Except.ok.inj faithful
    exact ⟨n, .inr ⟨f, h, ⟨earlier, before⟩, ⟨j, limit, bs, encoded, taken, ⟨_, _, told⟩, present⟩,
      untouched⟩⟩

/-- A reader that begins after a change has returned gets a record from before the change exactly if
the record was put back under its key after the eviction. -/
theorem stale_iff_late_fill (s : Service) (store : Answering σ) (reads : ρ → Int64)
    (changes : κ → Change) (now : Span) (stored : σ)
    {p₁ p₂ : Pool (ρ ⊕ κ) Effect Effect.Answer Outcome (Traffic (ρ ⊕ κ) σ)}
    (earlier : Pool.Reaches (surroundings store) (opening s reads changes now stored) p₁)
    {writer : κ} (settled : p₁.callers (.inr writer) = .done (.ok ()))
    {reader : ρ} (waits : .begins (.inl reader) ∉ p₁.shared.history)
    (later : Pool.Reaches (surroundings store) p₁ p₂) (same : reads reader = (changes writer).id)
    {v : Video} (returned : p₂.callers (.inl reader) = .done (.ok v)) :
    let history := p₂.shared.history
    let id := reads reader
    ∃ c e limit, c < e ∧ history[c]? = some (.tells (.inr writer) (changes writer).taken) ∧
      history[e]? = some (.tells (.inr writer) (evicted id limit)) ∧
      (∃ n, ReadAt history reader id v n) ∧
      ((∃ n < c, ReadAt history reader id v n) ↔
        ∃ n f h, n < c ∧ e < f ∧ Passed history reader id v n f h) := by
  intro history id
  have sound := (sound_opening s reads changes now stored).reaches keeps_ledger earlier
  have soundLater := sound.reaches keeps_ledger later
  have consistent := soundLater.1
  have grown := history_prefix later
  obtain ⟨part, limit, taken, prefixed⟩ := sound.outcome settled rfl
  obtain ⟨c, e, ordered, change, eviction⟩ := History.exists_of_diary_prefix prefixed taken
  have within := (List.getElem?_eq_some_iff.mp eviction).1
  have eviction := History.getElem?_of_prefix grown eviction
  rw [← same] at eviction
  refine ⟨c, e, limit, ordered, History.getElem?_of_prefix grown change, eviction,
    exists_readAt consistent (soundLater.outcome returned), ?_, ?_⟩
  · rintro ⟨n, before, own | ⟨f, h, passed⟩⟩
    · have := consistent.later grown waits own
      omega
    · refine ⟨n, f, h, before, Nat.lt_of_not_le fun early => ?_, passed⟩
      obtain ⟨j, _, bs, -, -, ⟨_, _, filled⟩, found⟩ := passed.handed
      have behind := consistent.later grown waits found
      rcases Nat.lt_or_eq_of_le early with early | rfl
      · exact passed.untouched e _ early (by omega) eviction rfl
      · cases eviction.symm.trans filled
  · rintro ⟨n, f, h, before, -, passed⟩
    exact ⟨n, before, .inr ⟨f, h, passed⟩⟩

end

def lateVideo : Video := ⟨1, 7, "ada", "dawn", none, "/p/1", "/c/1", 0, 0, .utc 0⟩

def lateOpening : Pool (Bool ⊕ Unit) Effect Effect.Answer Outcome
    (Traffic (Bool ⊕ Unit) Store.Memory) :=
  opening ⟨Settings.standard.gateway "memory", Settings.standard.detailPolicy⟩ (fun _ => 1)
    (fun _ => .like 1 2) 0 ⟨[lateVideo], [], []⟩

/-- The first reader has read the store and is about to fill the entry when the like is done. -/
def lateLiked : Pool (Bool ⊕ Unit) Effect Effect.Answer Outcome
    (Traffic (Bool ⊕ Unit) Store.Memory) :=
  (List.replicate 11 (Sum.inl false) ++ List.replicate 5 (Sum.inr ())).foldl
    (turn Store.Memory.perform) lateOpening

/-- The first reader fills the entry, and only then the second begins. -/
def lateRead : Pool (Bool ⊕ Unit) Effect Effect.Answer Outcome
    (Traffic (Bool ⊕ Unit) Store.Memory) :=
  (List.replicate 4 (Sum.inl false) ++ List.replicate 4 (Sum.inl true)).foldl
    (turn Store.Memory.perform) lateLiked

private theorem reaches_lateLiked :
    Pool.Reaches (surroundings (answering Store.Memory.perform)) lateOpening lateLiked :=
  reaches_turns Store.Memory.perform lateOpening _

private theorem reaches_lateRead :
    Pool.Reaches (surroundings (answering Store.Memory.perform)) lateLiked lateRead :=
  reaches_turns Store.Memory.perform lateLiked _

private theorem lateLiked_settled : lateLiked.callers (.inr ()) = .done (.ok ()) :=
  Pool.outcome?_eq_some.mp (by decide +kernel)

private theorem lateLiked_waits : .begins (.inl true) ∉ lateLiked.shared.history := by
  decide +kernel

private theorem lateRead_returned : lateRead.callers (.inl true) = .done (.ok lateVideo) :=
  Pool.outcome?_eq_some.mp (by decide +kernel)

/-- The store hands out the old record only before the like. -/
theorem late_order {n c : Nat} (old : ReadAt lateRead.shared.history true 1 lateVideo n)
    (change : lateRead.shared.history[c]? = some (.tells (.inr ()) (Change.like 1 2).taken)) :
    n < c := by
  have readOnce : ∀ j, .tells j (read 1 lateVideo) ∉ lateRead.shared.history.drop 12 := by
    intro j
    match j with
    | .inl false => decide +kernel
    | .inl true => decide +kernel
    | .inr () => decide +kernel
  have likedOnce :
      .tells (.inr ()) (Change.like 1 2).taken ∉ lateRead.shared.history.take 12 := by
    decide +kernel
  obtain ⟨j, told⟩ := old.told
  have early : n < 12 := by
    refine Nat.lt_of_not_le fun behind => readOnce j (List.mem_iff_getElem?.mpr ⟨n - 12, ?_⟩)
    rw [List.getElem?_drop, Nat.add_sub_cancel' behind, told]
  have late : 12 ≤ c := by
    refine Nat.le_of_not_lt fun before => likedOnce (List.mem_iff_getElem?.mpr ⟨c, ?_⟩)
    rw [List.getElem?_take_of_lt before, change]
  omega

/-- A like returns, and a reader that begins after it gets the record from before it. -/
theorem stale_after_like :
    Pool.Reaches (surroundings (answering Store.Memory.perform)) lateOpening lateLiked ∧
    lateLiked.callers (.inr ()) = .done (.ok ()) ∧
    lateLiked.shared.store.find 1 ≠ some lateVideo ∧
    .begins (.inl true) ∉ lateLiked.shared.history ∧
    Pool.Reaches (surroundings (answering Store.Memory.perform)) lateLiked lateRead ∧
    lateRead.callers (.inl true) = .done (.ok lateVideo) ∧
    ∃ n c, n < c ∧ ReadAt lateRead.shared.history true 1 lateVideo n ∧
      lateRead.shared.history[c]? = some (.tells (.inr ()) (Change.like 1 2).taken) := by
  have sound := (sound_opening _ _ _ _ _).reaches keeps_ledger
    (reaches_lateLiked.trans reaches_lateRead)
  obtain ⟨n, old⟩ := exists_readAt sound.1 (sound.outcome lateRead_returned)
  have change : lateRead.shared.history[12]? =
      some (.tells (.inr ()) (Change.like 1 2).taken) := by
    decide +kernel
  exact ⟨reaches_lateLiked, lateLiked_settled, by decide +kernel, lateLiked_waits,
    reaches_lateRead, lateRead_returned, n, 12, late_order old change, old, change⟩

/-- The old record was put back under its key behind the eviction. -/
theorem late_fill_after_like :
    ∃ n c e f h limit, n < c ∧ c < e ∧ e < f ∧
      lateRead.shared.history[c]? = some (.tells (.inr ()) (Change.like 1 2).taken) ∧
      lateRead.shared.history[e]? = some (.tells (.inr ()) (evicted 1 limit)) ∧
      Passed lateRead.shared.history true 1 lateVideo n f h := by
  obtain ⟨c, e, limit, ordered, change, eviction, ⟨n, old⟩, stale⟩ :=
    stale_iff_late_fill _ (answering Store.Memory.perform) _ _ _ _ reaches_lateLiked
      lateLiked_settled lateLiked_waits reaches_lateRead rfl lateRead_returned
  obtain ⟨n, f, h, before, behind, passed⟩ := stale.mp ⟨n, late_order old change, old⟩
  exact ⟨n, c, e, f, h, limit, before, ordered, behind, change, eviction, passed⟩

end ClipFeed.Video
