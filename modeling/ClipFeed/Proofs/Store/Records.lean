import ClipFeed.Proofs.Cache.Entry
import ClipFeed.Store.Memory
/-!
Stores of single records. A change of a video touches no record but its own, and a change that is
refused touches none. The store inside the process is such a store.
-/

namespace ClipFeed.Store

abbrev Serving (σ : Type) := σ → (call : Call) → Except Fault call.Answer × σ

/-- The answers of a store as it is now. -/
def Serving.fixed {σ : Type} (serve : Serving σ) (s : σ) : FixedStore :=
  fun call => (serve s call).1

/-- The stored video that a call changes. -/
def Call.changes? : Call → Option Int64
  | .delete id | .like id _ | .unlike id _ => some id
  | _ => none

/-- A store whose records change only by calls that change them. -/
structure Records {σ : Type} (serve : Serving σ) : Prop where
  find : ∀ s id, (serve s (.find id)).2 = s
  create : ∀ s submission id v, serve.fixed s (.find id) = .ok (some v) →
    serve.fixed (serve s (.create submission)).2 (.find id) = .ok (some v)
  others : ∀ s call id, call.changes? = some id → ∀ other, other ≠ id →
    serve.fixed (serve s call).2 (.find other) = serve.fixed s (.find other)

/-- Whether a store has made no change that it answers with a fault. -/
def Refuses {σ : Type} (serve : Serving σ) : Prop :=
  ∀ s call id fault, call.changes? = some id → (serve s call).1 = .error fault →
    serve.fixed (serve s call).2 (.find id) = serve.fixed s (.find id)

namespace Memory

variable {m : Memory} {id other : Int64}

private theorem find_adjust_of_ne {change : Video → Video} (keeps : ∀ v, (change v).id = v.id)
    (different : other ≠ id) (videos : List Video) :
    (adjust change id videos).find? (·.id == other) = videos.find? (·.id == other) := by
  induction videos with
  | nil => rfl
  | cons v vs ih =>
    unfold adjust
    split
    · next same =>
      have apart : (v.id == other) = false := by
        rw [eq_of_beq same]
        exact beq_eq_false_iff_ne.mpr (Ne.symm different)
      rw [List.find?_cons_of_neg, List.find?_cons_of_neg]
      · simp [apart]
      · simp [keeps, apart]
    · rw [List.find?_cons, List.find?_cons, ih]

theorem find_delete_of_ne (different : other ≠ id) :
    find (m.delete id).2 other = m.find other := by
  unfold delete
  split
  · rw [find, find, List.find?_filter]
    apply congrArg (List.find? · m.videos)
    funext v
    by_cases same : v.id = other
    · simp [same, different]
    · simp [same]
  · rfl

private theorem find_like_of_ne (different : other ≠ id) (account : Int64) :
    find (m.like id account).2 other = m.find other := by
  unfold like
  split
  · rfl
  · split
    · rfl
    · refine find_adjust_of_ne ?_ different m.videos
      intro v
      rfl

private theorem find_unlike_of_ne (different : other ≠ id) (account : Int64) :
    find (m.unlike id account).2 other = m.find other := by
  unfold unlike
  split
  · refine find_adjust_of_ne ?_ different m.videos
    intro v
    rfl
  · rfl

private theorem delete_refused {fault : Fault} (refused : (m.delete id).1 = .error fault) :
    (m.delete id).2 = m := by
  unfold delete at refused ⊢
  split at refused
  · cases refused
  · next absent => rw [if_neg absent]

private theorem like_refused {account : Int64} {fault : Fault}
    (refused : (m.like id account).1 = .error fault) : (m.like id account).2 = m := by
  unfold like at refused ⊢
  split at refused
  · next absent => rw [if_pos absent]
  · next present =>
    split at refused
    · next liked => rw [if_neg present, if_pos liked]
    · cases refused

private theorem unlike_refused {account : Int64} {fault : Fault}
    (refused : (m.unlike id account).1 = .error fault) : (m.unlike id account).2 = m := by
  unfold unlike at refused ⊢
  split at refused
  · cases refused
  · next unliked => rw [if_neg unliked]

private theorem find_create {v : Video} (present : m.find id = some v) (submission : Submission) :
    find (m.create submission).2 id = some v := by
  simp only [create, find, List.find?_append]
  rw [← find, present]
  rfl

theorem records : Records Memory.perform where
  find _ _ := rfl
  create m submission id v present := by
    have found : m.find id = some v := Except.ok.inj present
    exact congrArg Except.ok (find_create found submission)
  others m call id changes other different := by
    cases call with
    | delete _ => cases changes; exact congrArg Except.ok (find_delete_of_ne different)
    | like _ account => cases changes; exact congrArg Except.ok (find_like_of_ne different account)
    | unlike _ account =>
      cases changes; exact congrArg Except.ok (find_unlike_of_ne different account)
    | _ => cases changes

theorem refuses : Refuses Memory.perform := by
  intro m call id fault changes refused
  have unchanged : (m.perform call).2 = m := by
    cases call with
    | delete _ => exact delete_refused refused
    | like _ account => exact like_refused refused
    | unlike _ account => exact unlike_refused refused
    | _ => cases changes
  rw [unchanged]

/-- The store inside the process with the replies to likes lost: what it was asked is done, and is
answered with a fault. -/
def performUnheard (m : Memory) : (call : Call) → Except Fault call.Answer × Memory
  | .like id account => (.error (.persistence "connection reset"), (m.like id account).2)
  | call => m.perform call

theorem records_performUnheard : Records performUnheard where
  find := records.find
  create := records.create
  others m call id changes other different := by
    cases call with
    | like _ account => exact records.others m (.like _ account) id changes other different
    | delete _ => exact records.others m (.delete _) id changes other different
    | unlike _ account => exact records.others m (.unlike _ account) id changes other different
    | _ => cases changes

end Memory

end ClipFeed.Store
