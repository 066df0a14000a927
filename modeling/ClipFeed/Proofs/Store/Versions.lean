import ClipFeed.Proofs.Store.Scan
/-!
A store that changes while it is scanned. Videos come with identifiers that were never used before,
go, and keep their places in between; then the pages of a scan never show a video twice, whatever
version of the store each of them was read from, and they show every video that was there in all of
these versions.
-/

namespace ClipFeed.Store

open Feed

/-- Where videos stand among the newest: their identifiers and creation times. -/
def Memory.places (m : Memory) : List (Int64 × Moment) :=
  m.videos.map fun v => (v.id, v.createdAt)

theorem Memory.mem_places {m : Memory} {v : Video} (member : v ∈ m.videos) :
    (v.id, v.createdAt) ∈ m.places :=
  List.mem_map.mpr ⟨v, member, rfl⟩

/-- What may happen to a store when some identifiers have been used before. Rows may be put in any
order, and everything but identifiers and times may be different afterwards. -/
inductive Edit (used : Int64 → Prop) (m m' : Memory) : Prop where
  | insert (id : Int64) (time : Moment) (positive : 0 < id) (fresh : ¬ used id)
      (whole : time.unixNanos % 1000 = 0) (rows : m'.places.Perm ((id, time) :: m.places))
  | remove (id : Int64) (rows : m'.places.Perm (m.places.filter (·.1 != id)))
  | other (rows : m'.places.Perm m.places)

/-- What is true of places at any time. -/
structure Placed (places : List (Int64 × Moment)) : Prop where
  distinct : (places.map (·.1)).Nodup
  positive : ∀ p ∈ places, 0 < p.1
  whole : ∀ p ∈ places, p.2.unixNanos % 1000 = 0

/-- Versions of a store, each made from the one before. -/
structure Evolving (versions : Nat → Memory) : Prop where
  start : Placed (versions 0).places
  step : ∀ n, Edit (fun id => ∃ k ≤ n, ∃ time, (id, time) ∈ (versions k).places)
    (versions n) (versions (n + 1))

namespace Placed

variable {places others : List (Int64 × Moment)} {id : Int64} {time other : Moment}

private theorem of_perm (placed : Placed places) (rows : others.Perm places) : Placed others where
  distinct := (rows.map _).nodup_iff.mpr placed.distinct
  positive p member := placed.positive p (rows.mem_iff.mp member)
  whole p member := placed.whole p (rows.mem_iff.mp member)

theorem of_sublist (placed : Placed places) (part : others.Sublist places) : Placed others where
  distinct := placed.distinct.sublist (part.map _)
  positive p member := placed.positive p (part.subset member)
  whole p member := placed.whole p (part.subset member)

theorem cons (placed : Placed places) (fresh : id ∉ places.map (·.1)) (positive : 0 < id)
    (whole : time.unixNanos % 1000 = 0) : Placed ((id, time) :: places) where
  distinct := List.nodup_cons.mpr ⟨fresh, placed.distinct⟩
  positive := List.forall_mem_cons.mpr ⟨positive, placed.positive⟩
  whole := List.forall_mem_cons.mpr ⟨whole, placed.whole⟩

private theorem time_eq (placed : Placed places) (first : (id, time) ∈ places)
    (second : (id, other) ∈ places) : time = other := by
  induction places with
  | nil => cases first
  | cons p places ih =>
    obtain ⟨apart, _⟩ := List.nodup_cons.mp placed.distinct
    rcases List.mem_cons.mp first with rfl | here
    · rcases List.mem_cons.mp second with same | behind
      · exact (Prod.mk.inj same).2.symm
      · exact absurd (List.mem_map.mpr ⟨_, behind, rfl⟩) apart
    · rcases List.mem_cons.mp second with rfl | behind
      · exact absurd (List.mem_map.mpr ⟨_, here, rfl⟩) apart
      · exact ih (placed.of_sublist (List.sublist_cons_self ..)) here behind

end Placed

/-- A change keeps what is true of places. -/
theorem Edit.placed {used : Int64 → Prop} {m m' : Memory} (edit : Edit used m m')
    (known : ∀ id time, (id, time) ∈ m.places → used id) (placed : Placed m.places) :
    Placed m'.places := by
  cases edit with
  | insert id time positive fresh whole rows =>
    have unused : id ∉ m.places.map (·.1) := by
      intro member
      obtain ⟨⟨_, other⟩, present, rfl⟩ := List.mem_map.mp member
      exact fresh (known _ other present)
    exact (placed.cons unused positive whole).of_perm rows
  | remove id rows => exact (placed.of_sublist List.filter_sublist).of_perm rows
  | other rows => exact placed.of_perm rows

/-- A place behind a change was there before, or its identifier was not in use. -/
theorem Edit.place {used : Int64 → Prop} {m m' : Memory} (edit : Edit used m m') {id : Int64}
    {time : Moment} (member : (id, time) ∈ m'.places) : (id, time) ∈ m.places ∨ ¬ used id := by
  cases edit with
  | insert _ _ _ fresh _ rows =>
    rcases List.mem_cons.mp (rows.mem_iff.mp member) with same | before
    · cases same
      exact .inr fresh
    · exact .inl before
  | remove _ rows => exact .inl (List.mem_filter.mp (rows.mem_iff.mp member)).1
  | other rows => exact .inl (rows.mem_iff.mp member)

namespace Evolving

variable {versions : Nat → Memory} (evolving : Evolving versions)

include evolving

theorem placed (n : Nat) : Placed (versions n).places := by
  induction n with
  | zero => exact evolving.start
  | succ n ih =>
    refine (evolving.step n).placed ?_ ih
    intro id time member
    exact ⟨n, Nat.le_refl n, time, member⟩

private theorem time_eq_of_le {k n : Nat} (earlier : k ≤ n) {id : Int64} {time other : Moment}
    (first : (id, time) ∈ (versions k).places) (second : (id, other) ∈ (versions n).places) :
    time = other := by
  induction n with
  | zero =>
    obtain rfl := Nat.le_zero.mp earlier
    exact evolving.start.time_eq first second
  | succ n ih =>
    rcases Nat.lt_or_eq_of_le earlier with before | rfl
    · have within : k ≤ n := Nat.le_of_lt_succ before
      rcases (evolving.step n).place second with kept | fresh
      · exact ih within kept
      · exact absurd ⟨k, within, time, first⟩ fresh
    · exact (evolving.placed _).time_eq first second

/-- A video keeps its creation time for as long as its identifier is in use. -/
theorem time_eq {k n : Nat} {v w : Video} (first : v ∈ (versions k).videos)
    (second : w ∈ (versions n).videos) (same : v.id = w.id) : v.createdAt = w.createdAt := by
  have here := Memory.mem_places first
  rw [same] at here
  rcases Nat.le_total k n with earlier | later
  · exact evolving.time_eq_of_le earlier here (Memory.mem_places second)
  · exact (evolving.time_eq_of_le later (Memory.mem_places second) here).symm

theorem distinct (n : Nat) : ((versions n).videos.map (·.id)).Nodup := by
  have placed := (evolving.placed n).distinct
  rwa [Memory.places, List.map_map] at placed

theorem positive {n : Nat} {v : Video} (member : v ∈ (versions n).videos) : 0 < v.id :=
  (evolving.placed n).positive _ (Memory.mem_places member)

theorem whole {n : Nat} {v : Video} (member : v ∈ (versions n).videos) :
    v.createdAt.unixNanos % 1000 = 0 :=
  (evolving.placed n).whole _ (Memory.mem_places member)

end Evolving

/-- Pages of one scan: each is read from some version at the position of the last row of the page
before. -/
structure Chain (versions : Nat → Memory) (selected : Memory → Video → Bool) (size : UInt32)
    (reads : Nat → Nat) (cursors : Nat → Option LatestCursor) (pages : Nat → List Video)
    (last : Nat) : Prop where
  page : ∀ n ≤ last, pages n =
    (versions (reads n)).scanLatest ⟨size, cursors n⟩ (selected (versions (reads n)))
  start : cursors 0 = none
  next : ∀ n < last, ∃ w ∈ pages n, (∀ v ∈ pages n, newestFirst v w) ∧
    cursors (n + 1) = some ⟨.utc w.createdAt.unixNanos, some w.id⟩

namespace Chain

variable {versions : Nat → Memory} {selected : Memory → Video → Bool} {size : UInt32}
  {reads : Nat → Nat} {cursors : Nat → Option LatestCursor} {pages : Nat → List Video} {last : Nat}
  (chain : Chain versions selected size reads cursors pages last)

include chain

private theorem mem_page {n : Nat} (within : n ≤ last) {v : Video} (shown : v ∈ pages n) :
    v ∈ (versions (reads n)).videos ∧ selected (versions (reads n)) v ∧
      behindLatest (cursors n) v := by
  rw [chain.page n within] at shown
  exact mem_scanLatest shown

/-- What lies behind the position of a page lies behind those of all pages before. -/
theorem behind_earlier {k n : Nat} (earlier : k ≤ n) (within : n ≤ last) {v : Video}
    (behind : behindLatest (cursors n) v) : behindLatest (cursors k) v := by
  induction n with
  | zero =>
    obtain rfl := Nat.le_zero.mp earlier
    exact behind
  | succ n ih =>
    rcases Nat.lt_or_eq_of_le earlier with before | rfl
    · obtain ⟨w, shown, -, next⟩ := chain.next n within
      rw [next, behindLatest_row rfl rfl, Bool.not_eq_true'] at behind
      have row := (chain.mem_page (Nat.le_of_lt within) shown).2.2
      exact ih (Nat.le_of_lt_succ before) (Nat.le_of_lt within) (behindLatest_trans row behind)
    · exact behind

variable (evolving : Evolving versions)

include evolving

/-- Different pages show different videos. -/
theorem apart {k n : Nat} (earlier : k < n) (within : n ≤ last) {v w : Video}
    (first : v ∈ pages k) (second : w ∈ pages n) : v.id ≠ w.id := by
  intro same
  have here := chain.mem_page (Nat.le_trans (Nat.le_of_lt earlier) within) first
  have there := chain.mem_page within second
  have time := evolving.time_eq here.1 there.1 same
  obtain ⟨u, -, before, next⟩ := chain.next k (Nat.lt_of_lt_of_le earlier within)
  have behind := chain.behind_earlier earlier within there.2.2
  rw [next, behindLatest_row rfl rfl, Bool.not_eq_true', ← newestFirst_congr time same,
    before v first] at behind
  cases behind

/-- A video that no page has shown yet lies behind the position of the next one. -/
theorem behind_of_left_out {id : Int64}
    (present : ∀ n ≤ last, ∃ v ∈ (versions (reads n)).videos,
      selected (versions (reads n)) v ∧ v.id = id)
    {n : Nat} (within : n ≤ last) (left : ∀ k < n, ∀ v ∈ pages k, v.id ≠ id) {v : Video}
    (member : v ∈ (versions (reads n)).videos) (same : v.id = id) :
    behindLatest (cursors n) v := by
  induction n generalizing v with
  | zero =>
    rw [chain.start]
    rfl
  | succ n ih =>
    obtain ⟨u, there, looked, named⟩ := present n (Nat.le_of_lt within)
    have behind := ih (Nat.le_of_lt within) (fun k before => left k (Nat.lt_succ_of_lt before))
      there named
    have missing : u ∉ pages n := fun shown => left n (Nat.lt_succ_self n) u shown named
    rw [chain.page n (Nat.le_of_lt within)] at missing
    obtain ⟨-, after⟩ := scanLatest_left_out (evolving.distinct _) there looked behind missing
    obtain ⟨w, shown, -, next⟩ := chain.next n within
    rw [chain.page n (Nat.le_of_lt within)] at shown
    have time := evolving.time_eq member there (same.trans named.symm)
    rw [next, behindLatest_row rfl rfl, newestFirst_congr time (same.trans named.symm),
      after w shown]
    rfl

/-- A video that was there whenever a page was read is shown on one of them if the last is not
full. -/
theorem shown (short : (pages last).length ≠ size.toNat) {id : Int64}
    (present : ∀ n ≤ last, ∃ v ∈ (versions (reads n)).videos,
      selected (versions (reads n)) v ∧ v.id = id) :
    ∃ n ≤ last, ∃ v ∈ pages n, v.id = id := by
  apply Classical.byContradiction
  intro nowhere
  have left (n : Nat) (within : n ≤ last) (v : Video) (here : v ∈ pages n) : v.id ≠ id :=
    fun same => nowhere ⟨n, within, v, here, same⟩
  obtain ⟨v, member, looked, same⟩ := present last (Nat.le_refl last)
  have behind := chain.behind_of_left_out evolving present (Nat.le_refl last)
    (fun k before => left k (Nat.le_of_lt before)) member same
  have missing : v ∉ pages last := fun here => left last (Nat.le_refl last) v here same
  rw [chain.page last (Nat.le_refl last)] at missing
  obtain ⟨full, -⟩ := scanLatest_left_out (evolving.distinct _) member looked behind missing
  rw [← chain.page last (Nat.le_refl last)] at full
  exact short full

/-- No video is shown twice. -/
theorem once : ((List.range (last + 1)).flatMap fun n => (pages n).map (·.id)).Nodup := by
  refine List.pairwise_flatMap.mpr ⟨?_, ?_⟩
  · intro n listed
    rw [chain.page n (Nat.le_of_lt_succ (List.mem_range.mp listed))]
    exact scanLatest_distinct (evolving.distinct _) _ _
  · refine List.pairwise_lt_range.imp_of_mem ?_
    intro k n _ listed earlier a first b second
    obtain ⟨v, here, rfl⟩ := List.mem_map.mp first
    obtain ⟨w, there, rfl⟩ := List.mem_map.mp second
    exact chain.apart evolving earlier (Nat.le_of_lt_succ (List.mem_range.mp listed)) here there

end Chain

end ClipFeed.Store
