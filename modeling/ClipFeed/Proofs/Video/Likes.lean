import ClipFeed.Proofs.Cache.Gateway
import ClipFeed.Proofs.Sql.Transaction
import ClipFeed.Sql.Script
import ClipFeed.Video.Service
/-!
Likes and unlikes, which are one transaction each. It is committed as a whole or undone as a whole,
and the service evicts the video exactly if it was committed.
-/

namespace ClipFeed

open Cache

namespace Sql

/-- A like locks its video, is stored and is counted. -/
def likeStages (id account : Int64) : List Stage :=
  [.finding (.lock id), .accepting (.query (.insertLike id account)),
    .accepting (.query (.countLike id))]

/-- An unlike is removed and no longer counted. -/
def unlikeStages (id account : Int64) : List Stage :=
  [.changing (.deleteLike id account), .accepting (.query (.uncountLike id))]

namespace Session

open Stage

theorem like_eq (id account : Int64) :
    like id account = transaction (inOrder (likeStages id account)) := by
  rw [like, likeStages, inOrder, inOrder, inOrder_singleton, lockVideo_eq, touch_eq, touch_eq]

theorem unlike_eq (id account : Int64) :
    unlike id account = transaction (inOrder (unlikeStages id account)) := by
  rw [unlike, unlikeStages, inOrder, inOrder_singleton, change_eq, touch_eq]

end Session

variable {id account : Int64} {xs : List Sent} {o : Except Store.Fault Unit}

private theorem settled_like (transacted : Transacted (likeStages id account) xs o) :
    Settled (likeStages id account) xs o :=
  transacted.settled (by simp [likeStages, Stage.finding, Stage.accepting])

private theorem settled_unlike (transacted : Transacted (unlikeStages id account) xs o) :
    Settled (unlikeStages id account) xs o :=
  transacted.settled (by simp [unlikeStages, Stage.changing, Stage.accepting])

private theorem like_notFound_iff (transacted : Transacted (likeStages id account) xs o) :
    o = .error .notFound ↔ ∃ begun outcome tail,
      xs = ⟨.begin, .ok begun⟩ :: ⟨.query (.lock id), .ok outcome⟩ :: tail ∧
        outcome.rows = [] := by
  have lenient := transacted.notFound_iff (by simp [Stage.verdict_accepting_ne_notFound])
  refine lenient.trans (exists_congr fun begun => ?_)
  constructor
  · rintro ⟨reply, tail, rfl, missing⟩
    obtain ⟨outcome, rfl, empty⟩ := Stage.finding_notFound_iff.mp missing
    exact ⟨outcome, tail, rfl, empty⟩
  · rintro ⟨outcome, tail, rfl, empty⟩
    exact ⟨.ok outcome, tail, rfl, Stage.finding_notFound_iff.mpr ⟨outcome, rfl, empty⟩⟩

private theorem unlike_notFound_iff (transacted : Transacted (unlikeStages id account) xs o) :
    o = .error .notFound ↔ ∃ begun outcome tail,
      xs = ⟨.begin, .ok begun⟩ :: ⟨.query (.deleteLike id account), .ok outcome⟩ :: tail ∧
        outcome.affected = 0 := by
  have lenient := transacted.notFound_iff (by simp [Stage.verdict_accepting_ne_notFound])
  refine lenient.trans (exists_congr fun begun => ?_)
  constructor
  · rintro ⟨reply, tail, rfl, missing⟩
    obtain ⟨outcome, rfl, none⟩ := Stage.changing_notFound_iff.mp missing
    exact ⟨outcome, tail, rfl, none⟩
  · rintro ⟨outcome, tail, rfl, none⟩
    exact ⟨.ok outcome, tail, rfl, Stage.changing_notFound_iff.mpr ⟨outcome, rfl, none⟩⟩

end Sql

namespace Video

/-- The entry of a video is removed once, and that is all that is asked. -/
def Evicts (id : Int64) (xs : List Exchange) : Prop :=
  ∃ limit reply noted, xs = ⟨.cache limit (.delete (Key.video id).name), reply⟩ :: noted ∧
    ∀ x ∈ noted, Noting x.1

namespace Service

variable {s : Service} {id account : Int64} {xs : List Exchange} {o : Except Failure Unit}

private theorem evicts_of_ends {g : Gateway} (ended : (g.videoChanged id).Ends xs ()) :
    Evicts id xs := by
  obtain ⟨noting, same, notes⟩ := g.evict_eq (.video id)
  rw [Gateway.videoChanged, same] at ended
  obtain ⟨reply, noted, rfl, further⟩ := Dialogue.ends_ask_iff.mp ended
  exact ⟨_, reply, noted, rfl, (notes reply).of_ends further⟩

/-- A change that has an outcome evicts the video if it was made and asks nothing if it was not. -/
theorem ends_settle {changed : Except Failure Unit} (ended : (s.settle id changed).Ends xs o) :
    o = changed ∧ ((o = .ok () ∧ Evicts id xs) ∨ (o ≠ .ok () ∧ xs = [])) := by
  cases changed with
  | error failure =>
    obtain ⟨rfl, rfl⟩ := Dialogue.ends_done_iff.mp ended
    exact ⟨rfl, .inr ⟨nofun, rfl⟩⟩
  | ok made =>
    obtain ⟨ys, evicted, zs, first, second, rfl⟩ := Dialogue.Ends.of_bind ended
    obtain ⟨rfl, rfl⟩ := Dialogue.ends_done_iff.mp second
    rw [List.append_nil]
    exact ⟨rfl, .inl ⟨rfl, evicts_of_ends first⟩⟩

private theorem ends_change {call : Action (Except Store.Fault Unit)} {name : Store.Fault → Failure}
    (ended : (do s.settle id ((← call).mapError name)).Ends xs o) :
    ∃ ys reply rest, call.Ends ys reply ∧ xs = ys ++ rest ∧ o = reply.mapError name ∧
      ((o = .ok () ∧ Evicts id rest) ∨ (o ≠ .ok () ∧ rest = [])) := by
  obtain ⟨ys, reply, rest, first, second, rfl⟩ := Dialogue.Ends.of_bind ended
  obtain ⟨named, evicted⟩ := ends_settle second
  exact ⟨ys, reply, rest, first, rfl, named, evicted⟩

end Service

namespace Failure

private theorem ofLike_store
    {fault : Store.Fault} (fresh : ∀ constraint, fault ≠ .duplicate constraint)
    (present : fault ≠ .notFound) : ofLike fault = .store fault := by
  cases fault with
  | duplicate constraint => exact absurd rfl (fresh constraint)
  | notFound => exact absurd rfl present
  | _ => rfl

private theorem ofUnlike_store {fault : Store.Fault} (present : fault ≠ .notFound) :
    ofUnlike fault = .store fault := by
  cases fault with
  | notFound => exact absurd rfl present
  | _ => rfl

end Failure

/-- However its statements are replied, a like or an unlike sends them in its order up to the first
that fails, commits exactly if all passed, and undoes everything if one behind `BEGIN` did not. It
misses something exactly if its first statement does, and otherwise its fault is that of the
statement that failed. The service asks the store once, names its fault, and evicts the video
exactly if there is none. -/
theorem likes_all_or_nothing (id account : Int64) :
    (∀ xs o, (Sql.Session.like id account).Ends xs o →
      Sql.Transacted (Sql.likeStages id account) xs o ∧
      Sql.Settled (Sql.likeStages id account) xs o ∧
      (o = .error .notFound ↔ ∃ begun outcome tail,
        xs = ⟨.begin, .ok begun⟩ :: ⟨.query (.lock id), .ok outcome⟩ :: tail ∧
          outcome.rows = [])) ∧
    (∀ xs o, (Sql.Session.unlike id account).Ends xs o →
      Sql.Transacted (Sql.unlikeStages id account) xs o ∧
      Sql.Settled (Sql.unlikeStages id account) xs o ∧
      (o = .error .notFound ↔ ∃ begun outcome tail,
        xs = ⟨.begin, .ok begun⟩ :: ⟨.query (.deleteLike id account), .ok outcome⟩ :: tail ∧
          outcome.affected = 0)) ∧
    (∀ (s : Service) xs o, (s.like id account).Ends xs o → ∃ reply rest,
      xs = ⟨.store (.like id account), reply⟩ :: rest ∧ o = reply.mapError .ofLike ∧
      ((o = .ok () ∧ Evicts id rest) ∨ (o ≠ .ok () ∧ rest = []))) ∧
    (∀ (s : Service) xs o, (s.unlike id account).Ends xs o → ∃ reply rest,
      xs = ⟨.store (.unlike id account), reply⟩ :: rest ∧ o = reply.mapError .ofUnlike ∧
      ((o = .ok () ∧ Evicts id rest) ∨ (o ≠ .ok () ∧ rest = []))) ∧
    (∀ constraint, Failure.ofLike (.duplicate constraint) = .alreadyLiked) ∧
    Failure.ofLike .notFound = .notFound ∧
    (∀ fault, (∀ constraint, fault ≠ .duplicate constraint) → fault ≠ .notFound →
      Failure.ofLike fault = .store fault) ∧
    Failure.ofUnlike .notFound = .notLiked ∧
    ∀ fault, fault ≠ .notFound → Failure.ofUnlike fault = .store fault := by
  refine ⟨?_, ?_, ?_, ?_, fun _ => rfl, rfl, fun _ => Failure.ofLike_store, rfl,
    fun _ => Failure.ofUnlike_store⟩
  · intro xs o ended
    rw [Sql.Session.like_eq] at ended
    have transacted := Sql.Session.ends_transaction_iff.mp ended
    exact ⟨transacted, Sql.settled_like transacted, Sql.like_notFound_iff transacted⟩
  · intro xs o ended
    rw [Sql.Session.unlike_eq] at ended
    have transacted := Sql.Session.ends_transaction_iff.mp ended
    exact ⟨transacted, Sql.settled_unlike transacted, Sql.unlike_notFound_iff transacted⟩
  · intro s xs o ended
    obtain ⟨ys, reply, rest, asked, rfl, named⟩ := Service.ends_change ended
    obtain rfl := Dialogue.ends_request_iff.mp asked
    exact ⟨reply, rest, rfl, named⟩
  · intro s xs o ended
    obtain ⟨ys, reply, rest, asked, rfl, named⟩ := Service.ends_change ended
    obtain rfl := Dialogue.ends_request_iff.mp asked
    exact ⟨reply, rest, rfl, named⟩

/-- A second like is undone at its insertion, and the service evicts nothing; an unlike behind it is
committed, and the service evicts the video. -/
theorem likes_all_or_nothing_of_second :
    let taken : Sql.Script :=
      ⟨[.ok ⟨[[.integer 5]], 0⟩, .error ⟨some "23505", "duplicate key", some "likes_key"⟩], []⟩
    let removed : Sql.Script := ⟨[.ok ⟨[], 1⟩, .ok ⟨[], 1⟩], []⟩
    let second := (Sql.Session.like 5 7).transcript Sql.Script.perform taken
    let undone := (Sql.Session.unlike 5 7).transcript Sql.Script.perform removed
    let s : Service := ⟨⟨"memory", 5, 0, 2⟩, ⟨9, 3⟩⟩
    let refusal : List Exchange := [⟨.store (.like 5 7), .error (.duplicate "likes_key")⟩]
    Sql.Settled (Sql.likeStages 5 7) second (.error (.duplicate "likes_key")) ∧
      second.map (·.1) = [.begin, .query (.lock 5), .query (.insertLike 5 7), .rollback] ∧
      Sql.Settled (Sql.unlikeStages 5 7) undone (.ok ()) ∧
      undone.map (·.1) =
        [.begin, .query (.deleteLike 5 7), .query (.uncountLike 5), .commit] ∧
      (∃ reply rest, refusal = ⟨.store (.like 5 7), reply⟩ :: rest ∧ rest = []) ∧
      (∃ xs, (s.unlike 5 7).Ends (⟨.store (.unlike 5 7), .ok ()⟩ :: xs) (.ok ()) ∧ Evicts 5 xs) ∧
      Failure.ofLike .timeout = .store .timeout ∧
      Failure.ofUnlike (.duplicate "likes_key") = .store (.duplicate "likes_key") := by
  intro taken removed second undone s refusal
  obtain ⟨likes, unlikes, like, unlike, -, -, liked, -, unliked⟩ := likes_all_or_nothing 5 7
  have secondEnds : (Sql.Session.like 5 7).Ends second (.error (.duplicate "likes_key")) :=
    Dialogue.ends_transcript Sql.Script.perform taken (Sql.Session.like 5 7)
  have undoneEnds : (Sql.Session.unlike 5 7).Ends undone (.ok ()) :=
    Dialogue.ends_transcript Sql.Script.perform removed (Sql.Session.unlike 5 7)
  refine ⟨(likes second _ secondEnds).2.1, rfl, (unlikes undone _ undoneEnds).2.1, rfl, ?_, ?_,
    liked .timeout nofun nofun, unliked (.duplicate "likes_key") nofun⟩
  · have ended : (s.like 5 7).Ends refusal (.error .alreadyLiked) := .ask (.done _)
    obtain ⟨reply, rest, split, -, made | unmade⟩ := like s refusal _ ended
    · cases made.1
    · exact ⟨reply, rest, split, unmade.2⟩
  · have ended : ∃ xs, (s.unlike 5 7).Ends (⟨.store (.unlike 5 7), .ok ()⟩ ::
        ⟨.cache 5 (.delete (Key.video 5).name), .answered ()⟩ :: xs) (.ok ()) :=
      ⟨_, .ask (.ask (.ask (a := ()) (.ask (a := ()) (.done _))))⟩
    obtain ⟨xs, ended⟩ := ended
    obtain ⟨reply, rest, split, -, made | unmade⟩ := unlike s _ _ ended
    · obtain ⟨-, rfl⟩ := List.cons.inj split
      exact ⟨_, ended, made.2⟩
    · exact absurd rfl unmade.1

end Video
end ClipFeed
