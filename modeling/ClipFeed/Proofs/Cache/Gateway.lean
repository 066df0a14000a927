import ClipFeed.Proofs.Cache.Outline
import ClipFeed.Proofs.Dialogue.Twins
/-!
What a resolution asks and promises. Apart from filling its entry and from what its computation
asks, a resolution asks only for its own entry, its own lock and things that nobody else sees; so
it meets every contract that leaves these free, that lets hits be promised, and that lets what was
computed be kept. An eviction asks for less: it removes one entry.
-/

namespace ClipFeed

abbrev Exchange := (q : Effect) × q.Answer

namespace Cache

open Text

/-- What whoever looks for an entry may ask for at any time. -/
def Plain (key : Key) : Effect → Prop
  | .cache _ (.get name) => name = key.name
  | .sleep _ => True
  | .count _ => True
  | .log _ => True
  | _ => False

/-- What whoever handles the lock of a key may ask for at any time. -/
def Locking (key : Key) : Effect → Prop
  | .cache _ (.setIfAbsent name ..) => name = key.lockName
  | .cache _ (.deleteIfEquals name _) => name = key.lockName
  | .lockToken => True
  | .hold _ => True
  | .unhold => True
  | _ => False

/-- What a contract has to grant for the entry of a key, with what holds of an outcome once it is
computed and what is promised of every outcome. -/
structure Entries {τ α ε : Type} (c : Contract Effect Effect.Answer τ) (key : Key)
    (codec : Codec α) (computed promised : τ → Except ε α → Prop) : Prop where
  plain : ∀ t q, Plain key q → c.asks t q
  hit : ∀ t limit bs value, c.hears t (.cache limit (.get key.name)) (.answered (some bs)) →
    codec.decode bs = .ok value →
    promised (c.write t (.cache limit (.get key.name)) (.answered (some bs))) (.ok value)
  fill : ∀ t limit value bs ttl, computed t (.ok value) → codec.encode value = .ok bs →
    c.asks t (.cache limit (.set key.name bs ttl))
  suffices_computed : ∀ t o, computed t o → promised t o
  lasts : ∀ t q a o, promised t o → promised (c.write t q a) o
  lasts_computed : ∀ t q a o, computed t o → computed (c.write t q a) o

/-- What a contract has to grant for the resolution of a key. -/
structure Grants {τ α ε : Type} (c : Contract Effect Effect.Answer τ) (key : Key) (codec : Codec α)
    (computed promised : τ → Except ε α → Prop) : Prop
    extends Entries c key codec computed promised where
  locking : ∀ t q, Locking key q → c.asks t q

namespace Entries

variable {τ α ε : Type} {c : Contract Effect Effect.Answer τ} {key : Key} {codec : Codec α}
  {computed promised : τ → Except ε α → Prop} {t : τ}

def Owns (c : Contract Effect Effect.Answer τ) (key : Key) (lock : Lock) : Prop :=
  (∀ t q, Locking key q → c.asks t q) ∧ lock.key = key.lockName

/-- What holds at a point of a resolution: the right to handle the lock where it is handled, and
what is known of the outcome once there is one. -/
def At (c : Contract Effect Effect.Answer τ) (key : Key)
    (computed promised : τ → Except ε α → Prop) : Point α ε → τ → Prop
  | .looking .first, _ => ∀ t q, Locking key q → c.asks t q
  | .looking (.again lock), _ => Owns c key lock
  | .looking (.late _), _ => True
  | .missed, _ => ∀ t q, Locking key q → c.asks t q
  | .drawn _, _ => ∀ t q, Locking key q → c.asks t q
  | .granted lock, _ => Owns c key lock
  | .polling _, _ => True
  | .ready (.under lock), _ => Owns c key lock
  | .ready _, _ => True
  | .worked (.under lock) o, t => computed t o ∧ Owns c key lock
  | .worked _ o, t => computed t o
  | .closing lock o, t => promised t o ∧ Owns c key lock
  | .yielded lock o, t => promised t o ∧ Owns c key lock
  | .ended o, t => promised t o
  | .counting _ p, t => At c key computed promised p t
  | .noting p, t => At c key computed promised p t

theorem keeps (entries : Entries c key codec computed promised) {p : Point α ε}
    (here : At c key computed promised p t) (q : Effect) (a : q.Answer) :
    At c key computed promised p (c.write t q a) := by
  induction p with
  | looking look => cases look <;> exact here
  | missed => exact here
  | drawn token => exact here
  | granted lock => exact here
  | polling left => exact here
  | ready place => cases place <;> exact here
  | worked place o =>
    cases place with
    | under lock => exact ⟨entries.lasts_computed _ _ _ _ here.1, here.2⟩
    | behind => exact entries.lasts_computed _ _ _ _ here
    | apart => exact entries.lasts_computed _ _ _ _ here
  | closing lock o => exact ⟨entries.lasts _ _ _ _ here.1, here.2⟩
  | yielded lock o => exact ⟨entries.lasts _ _ _ _ here.1, here.2⟩
  | ended o => exact entries.lasts _ _ _ _ here
  | counting metric p ih => exact ih here
  | noting p ih => exact ih here

/-- What is computed is promised where the resolution goes on without storing it. -/
theorem after (entries : Entries c key codec computed promised) {place : Place} {o : Except ε α}
    (here : At c key computed promised (.worked place o) t) :
    At c key computed promised (place.after o) t := by
  cases place with
  | under lock => exact ⟨entries.suffices_computed _ _ here.1, here.2⟩
  | behind => exact entries.suffices_computed _ _ here
  | apart => exact entries.suffices_computed _ _ here

private theorem computed_of_worked {place : Place} {o : Except ε α}
    (here : At c key computed promised (.worked place o) t) : computed t o := by
  cases place with
  | under lock => exact here.1
  | behind => exact here
  | apart => exact here

/-- Whatever a lookup shows, it leads on; a value that it shows is promised. -/
theorem look_next {look : Look} {s : Sighting α}
    (here : At c key computed promised (.looking look : Point α ε) t)
    (shown : ∀ v, s = .value v → promised t (.ok v)) :
    At c key computed promised (look.next s) t := by
  cases look with
  | first =>
    cases s with
    | value v => exact shown v rfl
    | nothing => exact here
    | fault => exact here
  | again lock =>
    cases s with
    | value v => exact ⟨shown v rfl, here⟩
    | nothing => exact here
    | fault => exact here
  | late left =>
    cases s with
    | value v => exact shown v rfl
    | nothing => exact here
    | fault => exact here

theorem outline (entries : Entries c key codec computed promised) (g : Gateway) (policy : Policy)
    {compute : Action (Except ε α)} (computes : ∀ t, compute.Meets c computed t) :
    Outline c g codec key policy compute (At c key computed promised) where
  log event here := ⟨entries.plain _ _ trivial, fun _ _ => entries.keeps here _ _⟩
  count here := ⟨entries.plain _ _ trivial, fun _ _ => entries.keeps here _ _⟩
  look {look t} here := by
    refine ⟨entries.plain _ _ rfl, fun r heard => look_next (entries.keeps here _ _) ?_⟩
    intro v shown
    obtain ⟨bs, rfl, decoded⟩ := Codec.sight_eq_value.mp shown
    exact entries.hit _ _ bs v heard decoded
  draw here := ⟨here _ _ trivial, fun _ _ => here⟩
  lock {token t} here := by
    refine ⟨here _ _ rfl, ?_⟩
    rintro ((_ | _) | fault | _) _
    · trivial
    · exact ⟨here, rfl⟩
    · trivial
    · trivial
  hold here := ⟨here.1 _ _ trivial, fun _ _ => here⟩
  sleep _ := ⟨entries.plain _ _ trivial, fun _ _ => trivial⟩
  giveUp _ := trivial
  compute {place t} here := by
    apply (computes t).imp
    intro t o made
    cases place with
    | under lock => exact ⟨made, here⟩
    | behind => exact made
    | apart => exact made
  fill {place v bs t} _ here encoded := by
    refine ⟨entries.fill _ _ _ _ _ (computed_of_worked here) encoded, ?_⟩
    rintro (_ | fault | _) _ <;> exact entries.keeps (entries.after here) _ _
  unwritten _ here _ := entries.after here
  failed here := entries.after here
  leave here := entries.suffices_computed _ _ here
  unhold here := ⟨here.2.1 _ _ trivial, fun _ _ => ⟨entries.lasts _ _ _ _ here.1, here.2⟩⟩
  release here := by
    refine ⟨here.2.1 _ _ here.2.2, ?_⟩
    rintro ((_ | _) | fault | _) _ <;> exact entries.lasts _ _ _ _ here.1

end Entries

/-- Every outcome of a resolution is promised: it was found in the entry or computed. -/
theorem Gateway.meets_resolve {τ α ε : Type} {c : Contract Effect Effect.Answer τ} {key : Key}
    {codec : Codec α} {computed promised : τ → Except ε α → Prop} {g : Gateway} {t : τ}
    (grants : Grants c key codec computed promised) (policy : Policy)
    {compute : Action (Except ε α)} (computes : ∀ t, compute.Meets c computed t) :
    (g.resolve codec key policy compute).Meets c promised t :=
  (grants.toEntries.outline g policy computes).meets_resolve grants.locking

section

variable {α ε : Type} {ok : Effect → Prop} {key : Key}

/-- A resolution asks only questions of a kind if its computation does and the kind holds all that
the resolution asks by itself. -/
theorem Gateway.asks_resolve (plain : ∀ q, Plain key q → ok q) (locking : ∀ q, Locking key q → ok q)
    (fill : ∀ limit bs ttl, ok (.cache limit (.set key.name bs ttl))) (g : Gateway)
    (codec : Codec α) (policy : Policy) {compute : Action (Except ε α)} (asks : compute.Asks ok) :
    (g.resolve codec key policy compute).Asks ok := by
  have grants : Grants (Contract.only ok) key codec (fun _ (_ : Except ε α) => True)
      fun _ _ => True :=
    { plain := fun _ => plain
      locking := fun _ => locking
      hit := fun _ _ _ _ _ _ => trivial
      fill := fun _ limit _ bs ttl _ _ => fill limit bs ttl
      suffices_computed := fun _ _ _ => trivial
      lasts := fun _ _ _ _ _ => trivial
      lasts_computed := fun _ _ _ _ _ => trivial }
  exact meets_resolve grants policy fun _ => asks

/-- Apart from its computation a resolution asks nothing of the store. -/
theorem Gateway.asks_resolve_of_free (free : ∀ q, (∀ call, q ≠ .store call) → ok q) (g : Gateway)
    (codec : Codec α) (key : Key) (policy : Policy) {compute : Action (Except ε α)}
    (asks : compute.Asks ok) : (g.resolve codec key policy compute).Asks ok := by
  refine g.asks_resolve ?_ ?_ (fun _ _ _ => free _ nofun) codec policy asks
  · intro q plain
    apply free
    rintro call rfl
    exact plain
  · intro q locking
    apply free
    rintro call rfl
    exact locking

def Noting : Effect → Prop
  | .count _ => True
  | .log _ => True
  | _ => False

/-- An eviction removes the entry; whatever comes of it is only noted. -/
theorem Gateway.evict_eq (g : Gateway) (key : Key) :
    ∃ noting, g.evict key = Dialogue.ask (.cache g.opTimeout (.delete key.name)) noting ∧
      ∀ reply, (noting reply).Asks Noting := by
  refine ⟨_, rfl, fun reply => ?_⟩
  cases reply with
  | answered => exact ⟨trivial, fun _ _ => ⟨trivial, fun _ _ => trivial⟩⟩
  | failed fault => exact ⟨trivial, fun _ _ => ⟨trivial, fun _ _ => trivial⟩⟩
  | silent => exact ⟨trivial, fun _ _ => ⟨trivial, fun _ _ => trivial⟩⟩

theorem Gateway.asks_evict (noted : ∀ q, Noting q → ok q) (g : Gateway)
    (removes : ok (.cache g.opTimeout (.delete key.name))) : (g.evict key).Asks ok := by
  obtain ⟨noting, same, notes⟩ := g.evict_eq key
  rw [same]
  exact ⟨removes, fun reply _ => (notes reply).meets (fun _ => noted) ()⟩

end

end Cache

end ClipFeed
