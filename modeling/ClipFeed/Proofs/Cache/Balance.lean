import ClipFeed.Proofs.Cache.Tally
import ClipFeed.Proofs.Dialogue.Pool
import ClipFeed.Proofs.Service.Transparency
import Mathlib.Algebra.BigOperators.Group.Finset.Piecewise
import Mathlib.Data.Fintype.Card
/-!
The balance of the metrics. However many resolutions go on at the same time, and however the cache
answers them, once all are over the counters have grown by what the calls and the computations
account for.
-/

namespace ClipFeed.Cache

open Operation Text

/-- Counters that callers share, with what every caller was told so far. -/
structure Ledger (ι : Type) where
  counters : Metric → Nat
  told : ι → List Exchange

namespace Ledger

variable {ι : Type} [DecidableEq ι]

def hear (t : Ledger ι) (i : ι) (q : Effect) (a : q.Answer) : Ledger ι :=
  ⟨fun m => t.counters m + if q = .count m then 1 else 0,
    Function.update t.told i (t.told i ++ [⟨q, a⟩])⟩

/-- Callers that may be told anything. -/
def surroundings : Surroundings ι Effect Effect.Answer (Ledger ι) where
  answers t i q a t' := t' = t.hear i q a
  drifts _ _ := False

variable [Fintype ι]

/-- Whether the counters have grown by what was counted. -/
def Adds (counters : Metric → Nat) (t : Ledger ι) : Prop :=
  ∀ m, t.counters m = counters m + ∑ i, counts m (t.told i)

variable {counters : Metric → Nat} {t : Ledger ι}

private theorem Adds.hear (adds : t.Adds counters) (i : ι) (q : Effect) (a : q.Answer) :
    (t.hear i q a).Adds counters := by
  intro m
  have own : counts m (t.told i ++ [⟨q, a⟩]) =
      counts m (t.told i) + if q = .count m then 1 else 0 := by
    simp [counts]
  have told : ∑ j, counts m ((t.hear i q a).told j) =
      ∑ j, counts m (t.told j) + if q = .count m then 1 else 0 := by
    simp only [Ledger.hear, Function.apply_update (fun _ => counts m),
      Finset.sum_update_of_mem (Finset.mem_univ i), own]
    rw [Finset.sum_eq_add_sum_sdiff_singleton_of_mem (Finset.mem_univ i)
      fun j => counts m (t.told j)]
    exact Nat.add_right_comm ..
  rw [told, ← Nat.add_assoc, ← adds m]
  rfl

private theorem keeps_minutes : Pool.Keeps surroundings Contract.minutes (fun t (i : ι) => t.told i)
    (Adds counters) where
  answer := by
    rintro t _ i q a adds _ rfl
    refine ⟨trivial, adds.hear i q a, Function.update_self .., ?_⟩
    intro j other
    exact Function.update_of_ne other ..
  drift := nofun

end Ledger

/-- Calls that go on at the same time, each with its own key and computation. -/
structure Calls (ι : Type) (α ε : ι → Type) where
  gateway : ι → Gateway
  codec : (i : ι) → Codec (α i)
  key : ι → Key
  policy : ι → Policy
  compute : (i : ι) → Action (Except (ε i) (α i))

namespace Calls

variable {ι : Type} {α ε : ι → Type}

def resolve (c : Calls ι α ε) (i : ι) : Action (Except (ε i) (α i)) :=
  (c.gateway i).resolve (c.codec i) (c.key i) (c.policy i) (c.compute i)

def begin (c : Calls ι α ε) (counters : Metric → Nat) :
    Pool ι Effect Effect.Answer (fun i => Except (ε i) (α i)) (Ledger ι) :=
  ⟨⟨counters, fun _ => []⟩, c.resolve⟩

/-- Whether this is what the calls add to the counters, by what came back to them and by what they
computed. -/
structure Balanced [Fintype ι] (c : Calls ι α ε) (account : (i : ι) → Account (α i) (ε i))
    (gain : Metric → Nat) : Prop where
  calls : gain .hit + gain .compute = Fintype.card ι
  misses : gain .miss =
    gain .lockAcquired + gain .lockContended + ∑ i, refused (account i).operations
  acquired : gain .lockAcquired = ∑ i, granted (account i).operations
  contended : gain .lockContended = ∑ i, taken (account i).operations
  fallbacks : gain .fallback =
    (Finset.univ.filter fun i => taken (account i).operations = 1 ∧
      vain (c.codec i) (account i).operations).card + ∑ i, refused (account i).operations
  computations : gain .compute =
    (Finset.univ.filter fun i => granted (account i).operations = 1 ∧
      vain (c.codec i) (account i).operations).card + gain .fallback
  computed : gain .compute = (Finset.univ.filter fun i => (account i).computed.isSome).card
  errors : gain .error = ∑ i, (faults (account i).operations +
    (lookups (account i).operations).countP (c.codec i).unreadable +
    (account i).computed.elim 0 fun made =>
      unwritten (c.codec i) (account i).operations made.2)

/-- What single calls count adds up. -/
theorem balanced_of_counts [Fintype ι] {c : Calls ι α ε} {account : (i : ι) → Account (α i) (ε i)}
    {outcome : (i : ι) → Except (ε i) (α i)}
    (course : ∀ i, Course (c.codec i) (c.key i) (c.policy i) (c.gateway i).pollAttempts
      (account i).operations ((account i).computed.map (·.2)) (outcome i))
    (counted : ∀ i m, counts m (account i).own = dueToCalls (c.codec i) (account i).operations m +
      dueToComputing (c.codec i) (account i).operations ((account i).computed.map (·.2)) m) :
    c.Balanced account fun m => ∑ i, counts m (account i).own := by
  have acquired (i : ι) : counts .lockAcquired (account i).own = granted (account i).operations :=
    counted i .lockAcquired
  have contended (i : ι) : counts .lockContended (account i).own = taken (account i).operations :=
    counted i .lockContended
  have fallback (i : ι) : counts .fallback (account i).own = _ :=
    (counted i .fallback).trans (course i).fallback_eq
  have compute (i : ι) : counts .compute (account i).own = dueToComputing .. :=
    (counted i .compute).trans (Nat.zero_add _)
  constructor
  case calls =>
    have single (i : ι) : counts .hit (account i).own + counts .compute (account i).own = 1 := by
      rw [compute, ← (course i).hit_or_computed]
      exact congrArg (· + _) (counted i .hit)
    simp only [← Finset.sum_add_distrib, single, ← Finset.card_eq_sum_ones, Finset.card_univ]
  case misses =>
    have single (i : ι) : counts .miss (account i).own = counts .lockAcquired (account i).own +
        counts .lockContended (account i).own + refused (account i).operations := by
      rw [acquired, contended]
      exact counted i .miss
    simp only [single, Finset.sum_add_distrib]
  case acquired => simp only [acquired]
  case contended => simp only [contended]
  case fallbacks => simp only [fallback, Finset.sum_add_distrib, Finset.card_filter]
  case computations =>
    simp only [compute, (course _).compute_eq, fallback, Finset.sum_add_distrib,
      Finset.card_filter]
  case computed =>
    have single (i : ι) : counts .compute (account i).own =
        if (account i).computed.isSome then 1 else 0 := by
      rw [compute]
      cases (account i).computed <;> rfl
    simp only [single, Finset.card_filter]
  case errors =>
    have single (i : ι) : counts .error (account i).own = faults (account i).operations +
        (lookups (account i).operations).countP (c.codec i).unreadable +
        (account i).computed.elim 0 fun made =>
          unwritten (c.codec i) (account i).operations made.2 := by
      rw [counted]
      cases (account i).computed <;> rfl
    simp only [single]

/-- However calls are interleaved and whatever comes back to them, once all are over the counters
have grown by what the computations counted themselves and by a gain that is balanced: every call
is one hit or one computation; every miss is a lock acquired, a lock contended or a failed attempt;
every fallback is a contended call that looked in vain or a failed attempt; every computation is a
call that acquired the lock and looked in vain again, or a fallback; and every error is a call of
the cache that failed or was given up, or a value that could not be read or written. -/
theorem metrics_balanced [Fintype ι] [DecidableEq ι] (c : Calls ι α ε) (counters : Metric → Nat)
    {p : Pool ι Effect Effect.Answer (fun i => Except (ε i) (α i)) (Ledger ι)}
    (reached : Pool.Reaches Ledger.surroundings (c.begin counters) p)
    (completed : ∀ i, ∃ o, p.callers i = .done o) :
    ∃ (account : (i : ι) → Account (α i) (ε i)) (gain : Metric → Nat),
      (∀ i, (account i).whole = p.shared.told i ∧ (∀ x ∈ (account i).own, (c.gateway i).Own x.1) ∧
        ∀ during r, (account i).computed = some (during, r) →
          (c.compute i).Ends during r ∧ p.callers i = .done r) ∧
      (∀ m, p.shared.counters m =
        counters m + gain m + ∑ i, counts m ((account i).computed.elim [] (·.1))) ∧
      c.Balanced account gain := by
  have begun : (c.begin counters).Sound Contract.minutes (fun t i => t.told i)
      (Ledger.Adds counters) fun i t o => (c.resolve i).Ends t o := by
    refine ⟨fun m => by simp [begin], fun i => ?_⟩
    apply ((c.resolve i).meets_minutes []).imp
    rintro _ o ⟨xs, ended, rfl⟩
    exact ended
  have sound := begun.reaches Ledger.keeps_minutes reached
  choose outcome done using completed
  choose account whole own ran course counted using fun i =>
    Gateway.exists_booked_account (sound.outcome (done i))
  refine ⟨account, fun m => ∑ i, counts m (account i).own, ?_, ?_,
    balanced_of_counts course counted⟩
  · intro i
    refine ⟨whole i, own i, fun during r computed => ⟨ran i during r computed, ?_⟩⟩
    have told := course i
    rw [computed] at told
    rw [done i, told.computed.1]
  · intro m
    calc p.shared.counters m
      _ = counters m + ∑ i, counts m (p.shared.told i) := sound.1 m
      _ = counters m + ∑ i, (counts m (account i).own +
          counts m ((account i).computed.elim [] (·.1))) := by
        simp only [← whole, Account.counts_whole]
      _ = _ := by rw [Finset.sum_add_distrib, Nat.add_assoc]

/-- Two calls, one of which has the lock while the cache is silent to the other. -/
theorem metrics_balanced_of_two :
    let c : Calls Bool (fun _ => Bytes) (fun _ => String) :=
      ⟨fun _ => ⟨"memory", 5, 1, 2⟩, fun _ => ⟨.ok, .ok⟩, fun _ => .video 1, fun _ => ⟨9, 3⟩,
        fun _ => .done (.ok [7])⟩
    let reply := fun (i : Bool) (q : Effect) => match i, q with
      | true, .cache _ _ => .silent
      | _, q => uncachedAnswer (fun _ => .error .timeout) "t" q
    let answer := fun i (t : Ledger Bool) q => (reply i q, t.hear i q (reply i q))
    let p := ((c.begin fun _ => 0).settle (answer false) false).settle (answer true) true
    Pool.Reaches Ledger.surroundings (c.begin fun _ => 0) p ∧
      (∀ i, ∃ o, p.callers i = .done o) ∧
      (p.shared.counters .compute = 2 ∧ p.shared.counters .error = 2) ∧
      ∃ account gain, (∀ m, p.shared.counters m = gain m) ∧ c.Balanced account gain := by
  intro c reply answer p
  have first : Pool.Reaches Ledger.surroundings (c.begin fun _ => 0)
      ((c.begin fun _ => 0).settle (answer false) false) :=
    Pool.reaches_settle (fun _ _ => rfl) _
  have second : Pool.Reaches Ledger.surroundings _ p := Pool.reaches_settle (fun _ _ => rfl) _
  have reached := first.trans second
  have completed : ∀ i, ∃ o, p.callers i = .done o := Bool.forall_bool.mpr ⟨⟨_, rfl⟩, ⟨_, rfl⟩⟩
  obtain ⟨account, gain, told, grown, balanced⟩ := metrics_balanced c (fun _ => 0) reached completed
  refine ⟨reached, completed, ⟨rfl, rfl⟩, account, gain, fun m => ?_, balanced⟩
  have silent (i : Bool) : (account i).computed.elim [] (·.1) = [] := by
    cases made : (account i).computed with
    | none => rfl
    | some computed =>
      obtain ⟨ended, -⟩ := (told i).2.2 computed.1 computed.2 made
      exact (Dialogue.ends_done_iff.mp ended).1
  simpa [silent] using grown m

end Calls

end ClipFeed.Cache
