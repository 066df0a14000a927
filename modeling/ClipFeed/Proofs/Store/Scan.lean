import ClipFeed.Store.Memory
/-!
Scans of a store inside the process. In an order that tells rows apart, the rows strictly behind a
row are those that follow it when all are sorted, so a scan from the position of a row goes on
where the scan that gave the row left off.
-/

namespace ClipFeed.Store

open Feed

section Order

variable {α : Type} {le : α → α → Bool}

/-- An order in which any two rows compare and no two of the given ones are alike. -/
structure Tells (le : α → α → Bool) (rows : List α) : Prop where
  trans : ∀ a b c, le a b → le b c → le a c
  total : ∀ a b, le a b || le b a
  distinct : ∀ a ∈ rows, ∀ b ∈ rows, le a b → le b a → a = b
  once : rows.Nodup

theorem Tells.of_sublist {rows some : List α} (tells : Tells le rows) (part : some.Sublist rows) :
    Tells le some where
  trans := tells.trans
  total := tells.total
  distinct a first b second := tells.distinct a (part.subset first) b (part.subset second)
  once := tells.once.sublist part

theorem Tells.sorted {rows : List α} (tells : Tells le rows) :
    (rows.mergeSort le).Pairwise fun a b => le a b :=
  List.pairwise_mergeSort tells.trans tells.total rows

theorem Tells.refl {rows : List α} (tells : Tells le rows) (a : α) : le a a := by
  simpa using tells.total a a

private theorem filter_behind {rows front rest : List α} {v : α} (tells : Tells le rows)
    (sorted : rows.mergeSort le = front ++ v :: rest) :
    (rows.mergeSort le).filter (fun w => !le w v) = rest := by
  have ordered := tells.sorted
  have once : (rows.mergeSort le).Nodup :=
    (List.mergeSort_perm rows le).nodup_iff.mpr tells.once
  rw [sorted] at ordered once
  obtain ⟨_, behind, before⟩ := List.pairwise_append.mp ordered
  obtain ⟨after, _⟩ := List.pairwise_cons.mp behind
  have apart := (List.nodup_cons.mp (List.nodup_append.mp once).2.1).1
  have member (w : α) (found : w ∈ v :: rest) : w ∈ rows := by
    rw [← (List.mergeSort_perm rows le).mem_iff, sorted]
    exact List.mem_append_right front found
  have none : front.filter (fun w => !le w v) = [] := by
    rw [List.filter_eq_nil_iff]
    intro w found
    simp [before w found v (List.mem_cons_self ..)]
  have all : rest.filter (fun w => !le w v) = rest := by
    rw [List.filter_eq_self]
    intro w found
    by_cases back : le w v
    · have same := tells.distinct v (member v (List.mem_cons_self ..)) w
        (member w (List.mem_cons_of_mem v found)) (after w found) back
      exact absurd (same ▸ found) apart
    · simp [back]
  rw [sorted, List.filter_append, none, List.filter_cons_of_neg (by simp [tells.refl v]), all]
  rfl

/-- Sorting the rows behind a row gives what follows it among all rows. -/
theorem mergeSort_behind {rows front rest : List α} {v : α} (tells : Tells le rows)
    (sorted : rows.mergeSort le = front ++ v :: rest) :
    (rows.filter fun w => !le w v).mergeSort le = rest := by
  have same := filter_behind tells sorted
  have perm : ((rows.filter fun w => !le w v).mergeSort le).Perm rest := by
    rw [← same]
    exact (List.mergeSort_perm _ _).trans ((List.mergeSort_perm rows le).symm.filter _)
  have kept : Tells le (rows.filter fun w => !le w v) := tells.of_sublist List.filter_sublist
  have ordered := tells.sorted
  rw [sorted] at ordered
  refine perm.eq_of_pairwise (fun a b first second => ?_) kept.sorted
    (List.pairwise_cons.mp (List.pairwise_append.mp ordered).2.1).2
  have member : b ∈ (rows.filter fun w => !le w v) :=
    List.mem_mergeSort.mp (perm.mem_iff.mpr second)
  exact kept.distinct a (List.mem_mergeSort.mp first) b member

/-- What is cut off lies strictly behind all that is kept, and as much is kept as may be. -/
theorem left_out {rows : List α} (tells : Tells le rows) {limit : Nat} {v : α} (found : v ∈ rows)
    (left : v ∉ (rows.mergeSort le).take limit) :
    ((rows.mergeSort le).take limit).length = limit ∧
      ∀ w ∈ (rows.mergeSort le).take limit, le v w = false := by
  have whole : v ∈ (rows.mergeSort le).take limit ++ (rows.mergeSort le).drop limit := by
    rw [List.take_append_drop]
    exact List.mem_mergeSort.mpr found
  have later := (List.mem_append.mp whole).resolve_left left
  constructor
  · have long := List.length_pos_of_mem later
    rw [List.length_drop] at long
    exact List.length_take_of_le (by omega)
  · intro w shown
    have sorted := tells.sorted
    rw [← List.take_append_drop limit (rows.mergeSort le)] at sorted
    have before := (List.pairwise_append.mp sorted).2.2 w shown v later
    cases back : le v w with
    | false => rfl
    | true =>
      have member := List.mem_mergeSort.mp (List.mem_of_mem_take shown)
      have same := tells.distinct v found w member back before
      exact absurd (same ▸ shown) left

end Order

theorem newestFirst_iff {v w : Video} : newestFirst v w ↔
    w.createdAt.unixNanos < v.createdAt.unixNanos ∨
      v.createdAt.unixNanos = w.createdAt.unixNanos ∧ w.id.toInt ≤ v.id.toInt := by
  simp [newestFirst, Int64.le_iff_toInt_le]

theorem mostLikedFirst_iff {v w : Video} : mostLikedFirst v w ↔
    w.likesCount.toInt < v.likesCount.toInt ∨
      v.likesCount.toInt = w.likesCount.toInt ∧ w.id.toInt ≤ v.id.toInt := by
  simp [mostLikedFirst, Int64.le_iff_toInt_le, Int64.lt_iff_toInt_lt, Int64.toInt_inj]

private theorem eq_of_id_eq {rows : List Video} (ids : (rows.map (·.id)).Nodup) {v w : Video}
    (first : v ∈ rows) (second : w ∈ rows) (same : v.id.toInt = w.id.toInt) : v = w := by
  induction rows with
  | nil => cases first
  | cons u rows ih =>
    obtain ⟨apart, ids⟩ := List.nodup_cons.mp ids
    have id : v.id = w.id := Int64.toInt.inj same
    rcases List.mem_cons.mp first with here | there
    · rcases List.mem_cons.mp second with also | behind
      · rw [here, also]
      · exact absurd (List.mem_map.mpr ⟨w, behind, by rw [← id, here]⟩) apart
    · rcases List.mem_cons.mp second with also | behind
      · exact absurd (List.mem_map.mpr ⟨v, there, by rw [id, also]⟩) apart
      · exact ih ids there behind

theorem tells_newestFirst {rows : List Video} (ids : (rows.map (·.id)).Nodup) :
    Tells newestFirst rows where
  trans a b c first second := by
    rw [newestFirst_iff] at *
    omega
  total a b := by
    rw [Bool.or_eq_true, newestFirst_iff, newestFirst_iff]
    omega
  distinct a first b second forth back := by
    rw [newestFirst_iff] at forth back
    exact eq_of_id_eq ids first second (by omega)
  once := List.Pairwise.of_map _ (fun _ _ other same => other (congrArg _ same)) ids

theorem tells_mostLikedFirst {rows : List Video} (ids : (rows.map (·.id)).Nodup) :
    Tells mostLikedFirst rows where
  trans a b c first second := by
    rw [mostLikedFirst_iff] at *
    omega
  total a b := by
    rw [Bool.or_eq_true, mostLikedFirst_iff, mostLikedFirst_iff]
    omega
  distinct a first b second forth back := by
    rw [mostLikedFirst_iff] at forth back
    exact eq_of_id_eq ids first second (by omega)
  once := List.Pairwise.of_map _ (fun _ _ other same => other (congrArg _ same)) ids

/-- What lies behind a position at the time and the row of a video. -/
theorem behindLatest_row {c : LatestCursor} {v : Video}
    (time : c.before.unixNanos = v.createdAt.unixNanos) (row : c.id = some v.id) (w : Video) :
    behindLatest (some c) w = !newestFirst w v := by
  rw [Bool.eq_iff_iff, Bool.not_eq_true', ← Bool.not_eq_true, newestFirst_iff]
  simp only [behindLatest, time, row, Option.any_some, Bool.or_eq_true, Bool.and_eq_true,
    decide_eq_true_eq, beq_iff_eq, Int64.lt_iff_toInt_lt]
  omega

private theorem behindPopular_row (v w : Video) :
    behindPopular (some ⟨v.likesCount, v.id⟩) w = !mostLikedFirst w v := by
  rw [Bool.eq_iff_iff, Bool.not_eq_true', ← Bool.not_eq_true, mostLikedFirst_iff]
  simp only [behindPopular, Bool.or_eq_true, Bool.and_eq_true, decide_eq_true_eq, beq_iff_eq,
    Int64.lt_iff_toInt_lt, ← Int64.toInt_inj]
  omega

variable {m : Memory}

theorem scanLatest_start (limit : UInt32) (selected : Video → Bool) :
    m.scanLatest ⟨limit, none⟩ selected =
      ((m.videos.filter selected).mergeSort newestFirst).take limit.toNat := by
  simp [Memory.scanLatest, behindLatest]

theorem scanPopular_start (limit : UInt32) :
    m.scanPopular ⟨limit, none⟩ = (m.videos.mergeSort mostLikedFirst).take limit.toNat := by
  have all : m.videos.filter (behindPopular none) = m.videos :=
    List.filter_eq_self.mpr fun _ _ => rfl
  rw [Memory.scanPopular, all]

theorem scanLatest_row (ids : (m.videos.map (·.id)).Nodup) (limit : UInt32)
    {selected : Video → Bool} {front rest : List Video} {v : Video}
    (sorted : (m.videos.filter selected).mergeSort newestFirst = front ++ v :: rest)
    {c : LatestCursor} (time : c.before.unixNanos = v.createdAt.unixNanos)
    (row : c.id = some v.id) : m.scanLatest ⟨limit, some c⟩ selected = rest.take limit.toNat := by
  have tells := (tells_newestFirst ids).of_sublist (List.filter_sublist (p := selected))
  have kept : m.videos.filter (fun w => selected w && behindLatest (some c) w) =
      (m.videos.filter selected).filter fun w => !newestFirst w v := by
    rw [List.filter_filter]
    exact List.filter_congr fun w _ => by rw [behindLatest_row time row, Bool.and_comm]
  rw [Memory.scanLatest, kept, mergeSort_behind tells sorted]

theorem scanPopular_row (ids : (m.videos.map (·.id)).Nodup) (limit : UInt32)
    {front rest : List Video} {v : Video}
    (sorted : m.videos.mergeSort mostLikedFirst = front ++ v :: rest) :
    m.scanPopular ⟨limit, some ⟨v.likesCount, v.id⟩⟩ = rest.take limit.toNat := by
  have kept : m.videos.filter (behindPopular (some ⟨v.likesCount, v.id⟩)) =
      m.videos.filter fun w => !mostLikedFirst w v :=
    List.filter_congr fun w _ => behindPopular_row v w
  rw [Memory.scanPopular, kept, mergeSort_behind (tells_mostLikedFirst ids) sorted]

/-- What a scan shows is in the store, is looked for and lies behind its position. -/
theorem mem_scanLatest {page : PageRequest LatestCursor} {selected : Video → Bool} {v : Video}
    (shown : v ∈ m.scanLatest page selected) :
    v ∈ m.videos ∧ selected v ∧ behindLatest page.cursor v := by
  have found := List.mem_mergeSort.mp (List.mem_of_mem_take shown)
  simpa using List.mem_filter.mp found

private theorem scanLatest_sorted
    (ids : (m.videos.map (·.id)).Nodup) (page : PageRequest LatestCursor)
    (selected : Video → Bool) :
    (m.scanLatest page selected).Pairwise fun v w => newestFirst v w :=
  ((tells_newestFirst ids).of_sublist List.filter_sublist).sorted.sublist (List.take_sublist ..)

theorem scanLatest_last (ids : (m.videos.map (·.id)).Nodup) {page : PageRequest LatestCursor}
    {selected : Video → Bool} {front : List Video} {w : Video}
    (split : m.scanLatest page selected = front ++ [w]) :
    ∀ v ∈ m.scanLatest page selected, newestFirst v w := by
  have sorted := scanLatest_sorted ids page selected
  rw [split] at sorted ⊢
  intro v shown
  rcases List.mem_append.mp shown with before | same
  · exact (List.pairwise_append.mp sorted).2.2 v before w (List.mem_singleton_self w)
  · obtain rfl := List.mem_singleton.mp same
    exact (tells_newestFirst ids).refl v

theorem scanLatest_distinct (ids : (m.videos.map (·.id)).Nodup) (page : PageRequest LatestCursor)
    (selected : Video → Bool) : ((m.scanLatest page selected).map (·.id)).Nodup := by
  have kept := ids.sublist ((List.filter_sublist
    (p := fun v => selected v && behindLatest page.cursor v)).map (·.id))
  have sorted := ((List.mergeSort_perm _ newestFirst).map (·.id)).nodup_iff.mpr kept
  exact sorted.sublist ((List.take_sublist ..).map _)

/-- What a scan leaves out lies strictly behind all that it shows, and it shows as many rows as it
may. -/
theorem scanLatest_left_out (ids : (m.videos.map (·.id)).Nodup) {page : PageRequest LatestCursor}
    {selected : Video → Bool} {v : Video} (member : v ∈ m.videos) (looked : selected v)
    (behind : behindLatest page.cursor v) (left : v ∉ m.scanLatest page selected) :
    (m.scanLatest page selected).length = page.limit.toNat ∧
      ∀ w ∈ m.scanLatest page selected, newestFirst v w = false := by
  have tells := (tells_newestFirst ids).of_sublist
    (List.filter_sublist (p := fun v => selected v && behindLatest page.cursor v))
  exact left_out tells (List.mem_filter.mpr ⟨member, by simp [looked, behind]⟩) left

theorem behindLatest_trans {c : Option LatestCursor} {v w : Video} (behind : behindLatest c w)
    (after : newestFirst v w = false) : behindLatest c v := by
  cases c with
  | none => rfl
  | some c =>
    rw [← Bool.not_eq_true, newestFirst_iff] at after
    cases row : c.id with
    | none =>
      simp only [behindLatest, row, Option.any_none, Bool.and_false, Bool.or_false,
        decide_eq_true_eq] at behind ⊢
      omega
    | some id =>
      simp only [behindLatest, row, Option.any_some, Bool.or_eq_true, Bool.and_eq_true,
        decide_eq_true_eq, beq_iff_eq, Int64.lt_iff_toInt_lt] at behind ⊢
      omega

/-- Only the time and the identifier of a video tell where it stands. -/
theorem newestFirst_congr {v w : Video} (time : v.createdAt = w.createdAt) (id : v.id = w.id)
    (u : Video) : newestFirst v u = newestFirst w u := by
  simp only [newestFirst, time, id]

end ClipFeed.Store
