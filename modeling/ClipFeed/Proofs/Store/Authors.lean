import ClipFeed.Proofs.Cache.Traffic
import ClipFeed.Proofs.Store.Records
/-!
Authors of stored videos. In a store that never gives a video another author and never names a
second video as it named one before, a number stands for one author, whenever it is looked up.
-/

namespace ClipFeed.Store

open Relation

variable {σ : Type}

def Moves (store : Answering σ) (s s' : σ) : Prop :=
  ∃ call a, store s call a s'

/-- A store that finds the videos it holds, loses one only when it is deleted, gives none another
author, and does not use the number of a lost one again. -/
structure Authored (store : Answering σ) (author? : σ → Int64 → Option Int64) : Prop where
  found : ∀ {s s' id v}, store s (.find id) (.ok (some v)) s' → author? s id = some v.authorId
  deleted : ∀ {s s' call a id}, store s call a s' → author? s id ≠ none → author? s' id = none →
    call = .delete id
  unchanged : ∀ {s s' call a id first second}, store s call a s' → author? s id = some first →
    author? s' id = some second → first = second
  unused : ∀ {s s' call a id}, store s call a s' → author? s id ≠ none → author? s' id = none →
    ∀ s'', ReflTransGen (Moves store) s' s'' → author? s'' id = none

namespace Authored

variable {store : Answering σ} {author? : σ → Int64 → Option Int64} {s s' : σ} {id author : Int64}

/-- Later a video has the author that it had, or it is lost for good. -/
theorem later (authored : Authored store author?) (reached : ReflTransGen (Moves store) s s')
    (stored : author? s id = some author) :
    author? s' id = some author ∨
      ∀ s'', ReflTransGen (Moves store) s' s'' → author? s'' id = none := by
  induction reached with
  | refl => exact .inl stored
  | @tail b c _ move ih =>
    obtain ⟨call, a, answered⟩ := move
    rcases ih with kept | lost
    · cases now : author? c id with
      | none =>
        have before : author? b id ≠ none := by
          rw [kept]
          nofun
        exact .inr (authored.unused answered before now)
      | some other =>
        rw [authored.unchanged answered kept now]
        exact .inl rfl
    · exact .inr fun s'' further => lost s'' (.head ⟨call, a, answered⟩ further)

theorem author_eq (authored : Authored store author?) (reached : ReflTransGen (Moves store) s s')
    {other : Int64} (stored : author? s id = some author) (now : author? s' id = some other) :
    author = other := by
  rcases authored.later reached stored with kept | lost
  · exact Option.some.inj (kept.symm.trans now)
  · have gone := (lost s' .refl).symm.trans now
    cases gone

end Authored

namespace Memory

variable {m : Memory} {id : Int64}

def author? (m : Memory) (id : Int64) : Option Int64 :=
  (m.find id).map (·.authorId)

private theorem author?_adjust {change : Video → Video} (keepsId : ∀ v, (change v).id = v.id)
    (keepsAuthor : ∀ v, (change v).authorId = v.authorId) (changed id : Int64)
    (videos : List Video) :
    ((adjust change changed videos).find? (·.id == id)).map (·.authorId) =
      (videos.find? (·.id == id)).map (·.authorId) := by
  induction videos with
  | nil => rfl
  | cons v vs ih =>
    unfold adjust
    split
    · rw [List.find?_cons, List.find?_cons, keepsId]
      cases v.id == id with
      | true => simp only [Option.map_some, keepsAuthor]
      | false => rfl
    · rw [List.find?_cons, List.find?_cons]
      cases v.id == id with
      | true => rfl
      | false => exact ih

private theorem author?_like (changed account : Int64) :
    author? (m.like changed account).2 id = m.author? id := by
  unfold like
  split
  · rfl
  · split
    · rfl
    · refine author?_adjust ?_ ?_ changed id m.videos
      · intro v
        rfl
      · intro v
        rfl

private theorem author?_unlike (changed account : Int64) :
    author? (m.unlike changed account).2 id = m.author? id := by
  unfold unlike
  split
  · refine author?_adjust ?_ ?_ changed id m.videos
    · intro v
      rfl
    · intro v
      rfl
  · rfl

private theorem author?_delete (m : Memory) (id : Int64) :
    author? (m.delete id).2 id = none := by
  unfold delete
  split
  · simp [author?, find, List.find?_filter]
  · next absent => simpa [author?] using absent

/-- The answers of a store in which nobody has an account any more. -/
def deserted (m : Memory) : (call : Call) → Except Fault call.Answer × Memory
  | .create _ => (.error .notFound, m)
  | call => m.perform call

private theorem author?_deserted (m : Memory) (call : Call) (id : Int64) :
    author? (m.deserted call).2 id = m.author? id ∨
      call = .delete id ∧ author? (m.deserted call).2 id = none := by
  cases call with
  | delete deleted =>
    by_cases same : deleted = id
    · subst same
      exact .inr ⟨rfl, author?_delete m deleted⟩
    · exact .inl (congrArg _ (find_delete_of_ne (Ne.symm same)))
  | like changed account => exact .inl (author?_like changed account)
  | unlike changed account => exact .inl (author?_unlike changed account)
  | _ => exact .inl rfl

private theorem author?_stays_none {m' : Memory}
    (reached : ReflTransGen (Moves (Traffic.answering deserted)) m m')
    (absent : m.author? id = none) : m'.author? id = none := by
  induction reached with
  | refl => exact absent
  | @tail b c _ move ih =>
    obtain ⟨call, a, answered⟩ := move
    have behind : (b.deserted call).2 = c := congrArg Prod.snd answered
    rcases author?_deserted b call id with same | ⟨-, lost⟩
    · rw [← behind, same, ih]
    · rw [← behind, lost]

/-- Where nobody has an account, nothing is stored any more, so no number is used again. -/
theorem authored_deserted : Authored (Traffic.answering deserted) author? where
  found {s s' id v} answered := by
    have found : s.find id = some v := Except.ok.inj (congrArg Prod.fst answered)
    rw [author?, found]
    rfl
  deleted {s s' call a id} answered stored lost := by
    have behind : (s.deserted call).2 = s' := congrArg Prod.snd answered
    rcases author?_deserted s call id with same | ⟨deletes, -⟩
    · rw [behind, lost] at same
      exact absurd same.symm stored
    · exact deletes
  unchanged {s s' call a id first second} answered before behind := by
    have state : (s.deserted call).2 = s' := congrArg Prod.snd answered
    rcases author?_deserted s call id with same | ⟨-, lost⟩
    · rw [state, behind, before] at same
      exact (Option.some.inj same).symm
    · rw [state, behind] at lost
      cases lost
  unused _ _ lost _ reached := author?_stays_none reached lost

end Memory

end ClipFeed.Store
