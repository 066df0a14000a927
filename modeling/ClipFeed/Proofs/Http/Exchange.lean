import ClipFeed.Http.Exchange
import ClipFeed.Proofs.Dialogue.Twins
/-!
Exchanges apart from what their replies take. Whom a request names is decided by its header alone:
it is missing, holds a number or holds none. Beside its reply an exchange asks for an identifier and
is logged, so a reply that is known from the request costs the store and the cache nothing.
-/

namespace ClipFeed.Http

open Text

namespace Request

variable {r : Request} {n m : Int64} {v : Viewer}

def Names (r : Request) (n : Int64) : Prop :=
  ∃ value text, r.header? Caller.header = some value ∧ plainText? value = some text ∧
    parseInt64? (trim text) = some n

def Unnamed (r : Request) : Prop :=
  r.header? Caller.header = none

/-- There is a header without a number in it. -/
def Misnamed (r : Request) : Prop :=
  r.header? Caller.header ≠ none ∧ ∀ n, ¬ r.Names n

private theorem Unnamed.viewer?_eq (unnamed : r.Unnamed) : Caller.viewer? r = some .anonymous := by
  rw [Unnamed] at unnamed
  rw [Caller.viewer?, unnamed]

private theorem Names.viewer?_eq (names : r.Names n) :
    Caller.viewer? r = some (.ofRaw (some n)) := by
  obtain ⟨value, text, given, plain, number⟩ := names
  rw [Caller.viewer?, given]
  simp only [plain, Option.bind_some, number, Option.map_some]

/-- A request without a viewer has a header that says nothing, and only such a request. -/
theorem viewer?_eq_none_iff : Caller.viewer? r = none ↔ r.Misnamed := by
  constructor
  · intro nobody
    constructor
    · intro unnamed
      rw [Unnamed.viewer?_eq unnamed] at nobody
      cases nobody
    · intro n names
      rw [names.viewer?_eq] at nobody
      cases nobody
  · intro misnamed
    obtain ⟨value, given⟩ := Option.ne_none_iff_exists'.mp misnamed.1
    rw [Caller.viewer?, given]
    simp only [Option.map_eq_none_iff, Option.bind_eq_none_iff]
    intro text plain
    cases number : parseInt64? (trim text) with
    | none => rfl
    | some n => exact absurd ⟨value, text, given, plain, number⟩ (misnamed.2 n)

private theorem Misnamed.viewer?_eq (misnamed : r.Misnamed) : Caller.viewer? r = none :=
  viewer?_eq_none_iff.mpr misnamed

theorem naming (r : Request) : r.Unnamed ∨ (∃ n, r.Names n) ∨ r.Misnamed := by
  by_cases unnamed : r.Unnamed
  · exact .inl unnamed
  · by_cases named : ∃ n, r.Names n
    · exact .inr (.inl named)
    · exact .inr (.inr ⟨unnamed, not_exists.mp named⟩)

end Request

namespace Refusal

/-- The refusal of a request whose header holds no number. -/
def misnamed : Refusal :=
  .badRequest "Invalid viewer header" (some "x-viewer-id must be an integer account id")

end Refusal

namespace Caller

variable {r : Request} {n : Int64} {v : Viewer}

theorem viewerOf_of_viewer (named : viewer? r = some v) : viewerOf r = .ok v := by
  rw [viewerOf, named]

theorem viewerOf_of_misnamed (misnamed : r.Misnamed) : viewerOf r = .error .misnamed := by
  rw [viewerOf, misnamed.viewer?_eq]
  rfl

theorem accountOf_of_misnamed (misnamed : r.Misnamed) : accountOf r = .error .misnamed := by
  rw [accountOf, viewerOf_of_misnamed misnamed]
  rfl

theorem accountOf_of_unnamed (unnamed : r.Unnamed) : accountOf r = .error .unauthorized := by
  rw [accountOf, viewerOf_of_viewer unnamed.viewer?_eq]
  rfl

theorem accountOf_of_names (names : r.Names n) :
    accountOf r = if 0 < n then .ok n else .error .unauthorized := by
  rw [accountOf, viewerOf_of_viewer names.viewer?_eq]
  simp only [bind, Except.bind, Viewer.accountId?_ofRaw]
  by_cases positive : 0 < n
  · rw [if_pos positive, if_pos positive]
    rfl
  · rw [if_neg positive, if_neg positive]
    rfl

/-- A request acts for an account exactly if its header holds the number of the account and this is
positive. -/
theorem accountOf_eq_ok_iff : accountOf r = .ok n ↔ r.Names n ∧ 0 < n := by
  constructor
  · intro acting
    rcases r.naming with unnamed | ⟨m, names⟩ | misnamed
    · rw [accountOf_of_unnamed unnamed] at acting
      cases acting
    · rw [accountOf_of_names names] at acting
      split at acting
      · next positive =>
        obtain rfl := Except.ok.inj acting
        exact ⟨names, positive⟩
      · cases acting
    · rw [accountOf_of_misnamed misnamed] at acting
      cases acting
  · intro ⟨names, positive⟩
    rw [accountOf_of_names names, if_pos positive]

end Caller

/-- What an exchange asks beside its reply. -/
def Incidental : Effect → Prop
  | .requestId => True
  | .log _ => True
  | _ => False

namespace Site

variable {s : Site} {r : Request} {reply : Reply}

/-- A method that a route offers is served by it; only a request for the head gets less. -/
theorem respond_eq (s : Site) {route : Route} (path : Route.ofPath? r.path = some route)
    (offered : r.method ∈ route.methods) (whole : r.method ≠ "HEAD") :
    s.respond r = s.serve r route := by
  have contained : route.methods.contains r.method = true := by simpa using offered
  rw [respond, path]
  simp only [contained, whole, if_true, if_false]
  exact Dialogue.bind_done _

/-- What is left of an exchange once it is identified. -/
def answered (s : Site) (r : Request) (requestId : String) : Action Exchange := do
  let reply ← s.respond r
  let x : Exchange := ⟨reply, requestId, .ofRequest r⟩
  Action.log (x.event r)
  return x

theorem exchange_eq (s : Site) (r : Request) :
    s.exchange r = match Exchange.forwardedId? r with
      | some id => s.answered r id
      | none => Action.ask .requestId >>= s.answered r := by
  unfold exchange
  cases Exchange.forwardedId? r <;> rfl

/-- An exchange asks nothing but what its reply takes and what is incidental to it. -/
theorem meets_exchange {τ : Type} {c : Contract Effect Effect.Answer τ}
    {promised : τ → Reply → Prop} (incidental : ∀ t q, Incidental q → c.asks t q)
    (lasts : ∀ t q a reply, promised t reply → promised (c.write t q a) reply)
    (responds : ∀ t, (s.respond r).Meets c promised t) (t : τ) :
    (s.exchange r).Meets c (fun t x => promised t x.reply) t := by
  have identified (t : τ) (id : String) :
      (s.answered r id).Meets c (fun t x => promised t x.reply) t := by
    refine (responds t).bind fun t reply kept => ?_
    exact ⟨incidental _ _ trivial, fun _ _ => lasts _ _ _ _ kept⟩
  rw [exchange_eq]
  split
  · exact identified t _
  · exact ⟨incidental _ _ trivial, fun id _ => identified _ id⟩

/-- The exchange ends with this reply, whatever is answered, and asks neither the store nor the
cache. -/
def RepliesAlone (s : Site) (r : Request) (reply : Reply) : Prop :=
  (s.exchange r).Meets (Contract.only Incidental) (fun _ x => x.reply = reply) ()

theorem repliesAlone_of_respond (known : s.respond r = .done reply) : s.RepliesAlone r reply := by
  have replies (t : Unit) : (s.respond r).Meets (Contract.only Incidental)
      (fun _ answered => answered = reply) t := by
    rw [known]
    exact rfl
  exact meets_exchange (fun _ _ => id) (fun _ _ _ _ => id) replies ()

end Site

end ClipFeed.Http
