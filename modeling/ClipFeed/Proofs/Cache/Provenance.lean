import ClipFeed.Cache.Settings
import ClipFeed.Proofs.Cache.Annals
import ClipFeed.Proofs.Cache.Course
import ClipFeed.Proofs.Cache.Entry
import ClipFeed.Store.Memory
import ClipFeed.Video.Service
/-!
Where values come from. Whatever resolutions and evictions go on at the same time, a value that is
returned for a key was computed by a single resolution of that key: by the one that returns it, or
by one that put it under the key, where it was found before its time was up and before anybody
replaced or removed it.
-/

namespace ClipFeed.Cache

open Text

/-- Types and codecs of values by what names of keys tell, so that callers that share an entry share
them too. -/
structure Catalogue where
  Value : Key.Mark → Type
  codec : (mark : Key.Mark) → Codec (Value mark)

/-- What puts nothing into a cache. -/
def PutsNothing : Effect → Prop
  | .cache _ (.set ..) | .cache _ (.setIfAbsent ..) => False
  | _ => True

/-- A resolution whose computation puts nothing into the cache on its own and computes only values
that survive being written and read. -/
structure Resolution (c : Catalogue) (mark : Key.Mark) where
  {Failure : Type}
  gateway : Gateway
  key : Key
  marked : key.mark = mark
  policy : Policy
  compute : Action (Except Failure (c.Value mark))
  putsNothing : compute.Asks PutsNothing
  survives : ∀ {xs v bs}, compute.Ends xs (.ok v) → (c.codec mark).encode v = .ok bs →
    (c.codec mark).decode bs = .ok v

namespace Resolution

variable {c : Catalogue} {mark : Key.Mark}

abbrev Outcome (r : Resolution c mark) : Type := Except r.Failure (c.Value mark)

def run (r : Resolution c mark) : Action r.Outcome :=
  r.gateway.resolve (c.codec mark) r.key r.policy r.compute

/-- Whether the computation ends with a value on answers that stand in a diary one after another. -/
def Computed (r : Resolution c mark) (diary : List Exchange) (v : c.Value mark) : Prop :=
  ∃ xs, xs <:+: diary ∧ r.compute.Ends xs (.ok v)

/-- Whether a value was read from the entry. -/
def Read (r : Resolution c mark) (diary : List Exchange) (v : c.Value mark) : Prop :=
  ∃ limit bs, ⟨.cache limit (.get r.key.name), .answered (some bs)⟩ ∈ diary ∧
    (c.codec mark).decode bs = .ok v

theorem Computed.append {r : Resolution c mark} {diary : List Exchange} {v : c.Value mark}
    (computed : r.Computed diary v) (x : Exchange) : r.Computed (diary ++ [x]) v := by
  obtain ⟨xs, within, ended⟩ := computed
  exact ⟨xs, within.trans (List.prefix_append ..).isInfix, ended⟩

theorem Read.append {r : Resolution c mark} {diary : List Exchange} {v : c.Value mark}
    (read : r.Read diary v) (x : Exchange) : r.Read (diary ++ [x]) v := by
  obtain ⟨limit, bs, member, decoded⟩ := read
  exact ⟨limit, bs, List.mem_append_left _ member, decoded⟩

end Resolution

/-- Anybody who puts nothing into the cache. -/
structure Bystander where
  {Outcome : Type}
  action : Action Outcome
  putsNothing : action.Asks PutsNothing

private theorem Gateway.evict_putsNothing (g : Gateway) (key : Key) :
    (g.evict key).Asks PutsNothing := by
  refine g.asks_evict (fun q noting => ?_) trivial
  cases q <;> trivial

def Bystander.evicting (g : Gateway) (key : Key) : Bystander :=
  ⟨g.evict key, g.evict_putsNothing key⟩

section

variable {c : Catalogue} {ρ κ : Type} (resolutions : ρ → (mark : Key.Mark) × Resolution c mark)

/-- A resolution fills its own entry with what it has computed; nobody else fills any. -/
def MayFill : ρ ⊕ κ → List Exchange → String → Bytes → Prop
  | .inl j, diary, name, bs => (resolutions j).2.key.name = name ∧
    ∃ v, (resolutions j).2.Computed diary v ∧ (c.codec _).encode v = .ok bs
  | .inr _, _, _, _ => False

abbrev journal : Contract Effect Effect.Answer ((ρ ⊕ κ) × List Exchange) :=
  Scene.journal (MayFill resolutions)

theorem asks_of_putsNothing {t : (ρ ⊕ κ) × List Exchange} {q : Effect} (nothing : PutsNothing q) :
    (journal resolutions).asks t q := by
  cases q with
  | cache limit call =>
    cases call with
    | set name bs ttl => exact nothing.elim
    | setIfAbsent name token ttl => exact nothing.elim
    | _ => trivial
  | _ => trivial

abbrev ownJournal (κ : Type) (j : ρ) : Contract Effect Effect.Answer ((ρ ⊕ κ) × List Exchange) :=
  (journal resolutions).assuming fun t => t.1 = .inl j

private theorem grants_ownJournal (j : ρ) :
    Grants (ownJournal resolutions κ j) (resolutions j).2.key (c.codec _)
      (fun t (o : (resolutions j).2.Outcome) => ∀ v, o = .ok v → (resolutions j).2.Computed t.2 v)
      (fun t o => ∀ v, o = .ok v →
        (resolutions j).2.Computed t.2 v ∨ (resolutions j).2.Read t.2 v) where
  plain t q plain _ := by
    apply asks_of_putsNothing
    cases q with
    | cache limit call =>
      cases call with
      | get name => trivial
      | _ => exact plain.elim
    | _ => trivial
  locking t q locking _ := by
    cases q with
    | cache limit call =>
      cases call with
      | setIfAbsent name token ttl => exact ⟨_, locking⟩
      | deleteIfEquals name token => trivial
      | _ => exact locking.elim
    | _ => trivial
  hit t limit bs v _ decoded w same := by
    obtain rfl := Except.ok.inj same
    exact .inr ⟨limit, bs, by simp [Contract.assuming, Scene.journal], decoded⟩
  fill t limit v bs ttl computed encoded own := by
    have fills : MayFill (κ := κ) resolutions (.inl j) t.2 (resolutions j).2.key.name bs :=
      ⟨rfl, v, computed v rfl, encoded⟩
    rw [← own] at fills
    exact fills
  suffices_computed t o computed v same := .inl (computed v same)
  lasts t q a o known v same := by
    rcases known v same with computed | read
    · exact .inl (computed.append _)
    · exact .inr (read.append _)
  lasts_computed t q a o computed v same := (computed v same).append _

theorem meets_compute (j : ρ) (t : (ρ ⊕ κ) × List Exchange) :
    (resolutions j).2.compute.Meets (ownJournal resolutions κ j)
      (fun t o => ∀ v, o = .ok v → (resolutions j).2.Computed t.2 v) t := by
  have free : (resolutions j).2.compute.Meets (ownJournal resolutions κ j) (fun _ _ => True) t :=
    (resolutions j).2.putsNothing.meets (fun _ _ nothing _ => asks_of_putsNothing _ nothing) t
  apply free.ends.imp
  rintro _ o ⟨-, xs, ended, rfl⟩ v rfl
  have written : (ownJournal resolutions κ j).writeAll t xs = (t.1, t.2 ++ xs) :=
    Scene.journal_writeAll (MayFill resolutions) t xs
  rw [written]
  exact ⟨xs, (List.suffix_append ..).isInfix, ended⟩

/-- A value that a resolution returns was computed by it or read from its entry. -/
theorem meets_run (j : ρ) (diary : List Exchange) :
    (resolutions j).2.run.Meets (journal (κ := κ) resolutions) (fun t o => ∀ v, o = .ok v →
      (resolutions j).2.Computed t.2 v ∨ (resolutions j).2.Read t.2 v) (.inl j, diary) := by
  have meets : (resolutions j).2.run.Meets (ownJournal resolutions κ j) _ (.inl j, diary) :=
    Gateway.meets_resolve (grants_ownJournal resolutions j) (resolutions j).2.policy
      (meets_compute resolutions j)
  exact meets.of_assuming (fun _ _ _ own => own) rfl

end

section

variable {c : Catalogue} {ρ κ σ : Type} (resolutions : ρ → (mark : Key.Mark) × Resolution c mark)
  (bystanders : κ → Bystander)

@[reducible] def Ending : ρ ⊕ κ → Type
  | .inl j => (resolutions j).2.Outcome
  | .inr k => (bystanders k).Outcome

def beginning (now : Span) (stored : σ) :
    Pool (ρ ⊕ κ) Effect Effect.Answer (Ending resolutions bystanders) (Scene (ρ ⊕ κ) σ) where
  shared := ⟨now, .empty, stored, []⟩
  callers
    | .inl j => (resolutions j).2.run
    | .inr k => (bystanders k).action

/-- Where a value comes from that a resolution returned: from its own computation, or from that of a
resolution of the same key that put it under the key, less than its lifetime before it was found
there and with nothing that replaced or removed it in between. -/
inductive Origin [DecidableEq ρ] [DecidableEq κ] (past : Annals (ρ ⊕ κ)) (j : ρ)
    (v : c.Value (resolutions j).1) : Prop where
  | own (computed : (resolutions j).2.Computed (past.diary (.inl j)) v)
  | entry {later between before : Annals (ρ ⊕ κ)} {found filled limit span ttl : Span} {bs : Bytes}
      {i : ρ} {filler : Resolution c (resolutions j).1} (resolves : resolutions i = ⟨_, filler⟩)
      (named : filler.key.name = (resolutions j).2.key.name)
      (split : past = later ++ ⟨found, .inl j, .cache limit (.get (resolutions j).2.key.name),
          .answered (some bs)⟩ :: (between ++ ⟨filled, .inl i,
          .cache span (.set (resolutions j).2.key.name bs ttl), .answered ()⟩ :: before))
      (lived : found < filled + ttl)
      (untouched : ∀ n ∈ between, ¬ n.Touches (resolutions j).2.key.name)
      (computed : filler.Computed (Annals.diary before (.inl i)) v)
      (encoded : (c.codec _).encode v = .ok bs)

def promised : (i : ρ ⊕ κ) → (ρ ⊕ κ) × List Exchange → Ending resolutions bystanders i → Prop
  | .inl j, t, o => ∀ v, o = .ok v →
    (resolutions j).2.Computed t.2 v ∨ (resolutions j).2.Read t.2 v
  | .inr _, _, _ => True

variable [DecidableEq ρ] [DecidableEq κ]

private theorem sound_beginning (now : Span) (stored : σ) :
    (beginning resolutions bystanders now stored).Sound (journal resolutions)
      (fun s i => (i, s.past.diary i)) (Scene.Recorded (MayFill resolutions))
      (promised resolutions bystanders) := by
  refine ⟨Scene.recorded_empty now stored, ?_⟩
  intro i
  cases i with
  | inl j => exact meets_run resolutions j _
  | inr k =>
    exact (bystanders k).putsNothing.meets (fun _ _ nothing => asks_of_putsNothing _ nothing) _

variable {resolutions bystanders}

private theorem origin_of_read {s : Scene (ρ ⊕ κ) σ}
    (recorded : Scene.Recorded (MayFill resolutions) s) {j : ρ} {v : c.Value (resolutions j).1}
    (read : (resolutions j).2.Read (s.past.diary (.inl j)) v) : Origin resolutions s.past j v := by
  obtain ⟨limit, bs, member, decoded⟩ := read
  obtain ⟨found, noticed⟩ := Annals.mem_diary.mp member
  obtain ⟨later, earlier, split⟩ := List.append_of_mem noticed
  obtain ⟨expiry, stands, lived⟩ := recorded.found split
  obtain ⟨between, filled, filler, span, ttl, before, rfl, rfl, untouched⟩ := stands
  have allowed := recorded.allowed (split.trans (List.append_assoc later (_ :: between) _).symm)
  cases filler with
  | inr k => exact allowed.elim
  | inl i =>
    obtain ⟨named, w, computed, encoded⟩ := allowed
    have marks : (resolutions i).1 = (resolutions j).1 := by
      rw [← (resolutions i).2.marked, ← (resolutions j).2.marked]
      exact Key.mark_eq_of_name_eq named
    generalize resolves : resolutions i = r at *
    obtain ⟨mark, filler⟩ := r
    obtain rfl := marks
    have survived := filler.survives computed.choose_spec.2 encoded
    rw [decoded] at survived
    obtain rfl := Except.ok.inj survived
    exact .entry resolves named split lived untouched computed encoded

/-- Every value that a resolution returns has an origin. -/
theorem origin_of_returned {store : Answering σ} {now : Span} {stored : σ}
    {p : Pool (ρ ⊕ κ) Effect Effect.Answer (Ending resolutions bystanders) (Scene (ρ ⊕ κ) σ)}
    (reached : Pool.Reaches (Scene.surroundings store)
      (beginning resolutions bystanders now stored) p)
    {j : ρ} {v : c.Value (resolutions j).1} (returned : p.callers (.inl j) = .done (.ok v)) :
    Origin resolutions p.shared.past j v := by
  have sound :=
    (sound_beginning resolutions bystanders now stored).reaches Scene.keeps_journal reached
  have known : promised resolutions bystanders (.inl j) _ (.ok v) := sound.outcome returned
  rcases known v rfl with computed | read
  · exact .own computed
  · exact origin_of_read sound.1 read

end

def Catalogue.standard : Catalogue where
  Value
    | .video _ => Video
    | .latest .. => Feed.LatestPage
    | .popular .. => Feed.PopularPage
    | .following .. => Feed.LatestPage
  codec
    | .video _ => Video.codec
    | .latest .. => Feed.LatestPage.codec
    | .popular .. => Feed.PopularPage.codec
    | .following .. => Feed.LatestPage.codec

private theorem find_putsNothing (id : Int64) : (Video.Service.find id).Asks PutsNothing := by
  refine ⟨trivial, ?_⟩
  rintro (fault | _ | v) _ <;> trivial

def Resolution.detail (s : Video.Service) (id : Int64) : Resolution .standard (.video id) where
  Failure := Video.Failure
  gateway := s.gateway
  key := .video id
  marked := rfl
  policy := s.policy
  compute := Video.Service.find id
  putsNothing := find_putsNothing id
  survives _ encoded := Video.faithful_codec _ _ encoded

theorem run_detail (s : Video.Service) (id : Int64) :
    (Resolution.detail s id).run = s.detail id := rfl

abbrev handedOut (id : Int64) (v : Video) : Exchange := ⟨.store (.find id), .ok (some v)⟩

/-- A computed record was handed out by the store. -/
theorem handedOut_of_computed {s : Video.Service} {id : Int64} {diary : List Exchange} {v : Video}
    (computed : (Resolution.detail s id).Computed diary v) : handedOut id v ∈ diary := by
  obtain ⟨xs, within, ended⟩ := computed
  apply within.subset
  cases ended with
  | @ask _ _ a _ _ rest =>
    rcases a with fault | _ | w
    · cases rest
    · cases rest
    · cases rest
      exact List.mem_cons_self ..

/-- So was one that is computed by whatever is the resolution of a record. -/
theorem handedOut_of_detail {s : Video.Service} {id other : Int64}
    {r : Resolution .standard (.video id)}
    (same : (⟨.video other, .detail s other⟩ : (mark : Key.Mark) × Resolution .standard mark) =
      ⟨.video id, r⟩) {diary : List Exchange} {v : Video} (computed : r.Computed diary v) :
    handedOut id v ∈ diary := by
  cases same
  exact handedOut_of_computed computed

section

variable {δ ρ κ σ : Type} (reads : δ → Video.Service × Int64)
  (pages : ρ → (mark : Key.Mark) × Resolution .standard mark)

def withDetails : δ ⊕ ρ → (mark : Key.Mark) × Resolution .standard mark
  | .inl d => ⟨.video (reads d).2, .detail (reads d).1 (reads d).2⟩
  | .inr r => pages r

variable [DecidableEq δ] [DecidableEq ρ] [DecidableEq κ] {reads pages}

/-- The record that a read returns was handed out by the store for its identifier. -/
theorem handedOut_of_origin (apart : ∀ r id, (pages r).1 ≠ .video id)
    {past : Annals ((δ ⊕ ρ) ⊕ κ)} {d : δ} {v : Video}
    (origin : Origin (withDetails reads pages) past (.inl d) v) :
    ∃ time caller, ⟨time, caller, handedOut (reads d).2 v⟩ ∈ past := by
  cases origin with
  | own computed =>
    obtain ⟨time, noticed⟩ := Annals.mem_diary.mp (handedOut_of_computed computed)
    exact ⟨time, _, noticed⟩
  | @entry _ _ before _ _ _ _ _ _ i filler resolves _ split _ _ computed _ =>
    have handed : handedOut (reads d).2 v ∈ Annals.diary before (.inl i) := by
      cases i with
      | inl other => exact handedOut_of_detail resolves computed
      | inr r => exact absurd (congrArg Sigma.fst resolves) (apart r _)
    obtain ⟨time, noticed⟩ := Annals.mem_diary.mp handed
    refine ⟨time, .inl i, ?_⟩
    rw [split]
    simp [noticed]

end

/-- Every value that a resolution returns was computed by a single resolution of its key: by itself,
or by one that put it under the key less than its lifetime before it was found there, and nobody
replaced or removed it in between. In particular a record that is returned for an identifier was
handed out by the store, as a whole, for that identifier. Lifetimes have no bound here, as spans
have none. -/
theorem returned_values_have_origins :
    (∀ {c : Catalogue} {ρ κ σ : Type} [DecidableEq ρ] [DecidableEq κ]
      (resolutions : ρ → (mark : Key.Mark) × Resolution c mark) (bystanders : κ → Bystander)
      (store : Answering σ) (now : Span) (stored : σ)
      (p : Pool (ρ ⊕ κ) Effect Effect.Answer (Ending resolutions bystanders) (Scene (ρ ⊕ κ) σ)),
      Pool.Reaches (Scene.surroundings store) (beginning resolutions bystanders now stored) p →
        ∀ (j : ρ) (v : c.Value (resolutions j).1), p.callers (.inl j) = .done (.ok v) →
          Origin resolutions p.shared.past j v) ∧
    ∀ {δ ρ κ σ : Type} [DecidableEq δ] [DecidableEq ρ] [DecidableEq κ]
      (reads : δ → Video.Service × Int64)
      (pages : ρ → (mark : Key.Mark) × Resolution .standard mark)
      (_ : ∀ r id, (pages r).1 ≠ .video id) (bystanders : κ → Bystander)
      (store : Answering σ) (now : Span) (stored : σ)
      (p : Pool ((δ ⊕ ρ) ⊕ κ) Effect Effect.Answer (Ending (withDetails reads pages) bystanders)
        (Scene ((δ ⊕ ρ) ⊕ κ) σ)),
      Pool.Reaches (Scene.surroundings store)
        (beginning (withDetails reads pages) bystanders now stored) p →
        ∀ (d : δ) (v : Video), p.callers (.inl (.inl d)) = .done (.ok v) →
          ∃ time caller, ⟨time, caller, handedOut (reads d).2 v⟩ ∈ p.shared.past := by
  constructor
  · intro c ρ κ σ _ _ resolutions bystanders store now stored p reached j v returned
    exact origin_of_returned reached returned
  · intro δ ρ κ σ _ _ _ reads pages apart bystanders store now stored p reached d v returned
    exact handedOut_of_origin apart (origin_of_returned reached returned)

/-- The first reader puts a record under the key and the second only finds it there, while somebody
is about to evict it. -/
theorem second_reader_origin :
    let settings := Settings.standard
    let service : Video.Service := ⟨settings.gateway "memory", settings.detailPolicy⟩
    let video : Video := ⟨1, 7, "ada", "dawn", none, "/p/1", "/c/1", 0, 0, .utc 0⟩
    let reads : Bool → Video.Service × Int64 := fun _ => (service, 1)
    let bystanders : Unit → Bystander := fun _ => .evicting service.gateway (.video 1)
    let reader (i : Bool) : (Bool ⊕ Empty) ⊕ Unit := .inl (.inl i)
    let answer (i : Bool) (s : Scene ((Bool ⊕ Empty) ⊕ Unit) Store.Memory) (q : Effect) :=
      s.reply Store.Memory.perform (reader i) q
    let begun := beginning (withDetails reads Empty.elim) bystanders 0 ⟨[video], [], []⟩
    let ended := (begun.settle (answer false) (reader false)).settle (answer true) (reader true)
    let operations (i : Bool) :=
      (ended.shared.past.diary (reader i)).filterMap Operation.ofExchange?
    let kept := (Video.codec.encode video).toOption
    Pool.Reaches (Scene.surroundings (Traffic.answering Store.Memory.perform)) begun ended ∧
      kept.isSome ∧
      Operation.stores (operations false) =
        kept.toList.map (fun bs => ((Key.video 1).name, bs, service.policy.ttl)) ∧
      Operation.lookups (operations true) = [.answered kept] ∧
      Operation.stores (operations true) = [] ∧
      ended.callers (reader true) = .done (.ok video) ∧
      Origin (withDetails reads Empty.elim) ended.shared.past (.inl true) video ∧
      ∃ time caller, ⟨time, caller, handedOut 1 video⟩ ∈ ended.shared.past := by
  intro settings service video reads bystanders reader answer begun ended operations kept
  have may (i) (s) (q) : (Scene.surroundings (Traffic.answering Store.Memory.perform)).answers
      s (reader i) q (answer i s q).1 (answer i s q).2 :=
    Scene.answers_reply Store.Memory.perform s (reader i) q
  have reached : Pool.Reaches (Scene.surroundings (Traffic.answering Store.Memory.perform))
      begun ended :=
    (Pool.reaches_settle (may false) begun).trans (Pool.reaches_settle (may true) _)
  have told : kept.isSome ∧
      Operation.stores (operations false) =
        kept.toList.map (fun bs => ((Key.video 1).name, bs, service.policy.ttl)) ∧
      Operation.lookups (operations true) = [.answered kept] ∧
      Operation.stores (operations true) = [] := by
    decide +kernel
  have found : ((service.detail 1).run (answer true)
      (begun.settle (answer false) (reader false)).shared).1 = .ok video := by
    decide +kernel
  have returned : ended.callers (reader true) = .done (.ok video) := by
    have waiting : (begun.settle (answer false) (reader false)).callers (reader true) =
      service.detail 1 := Pool.callers_settle_of_ne _ (by decide) begun
    rw [Pool.callers_settle, waiting]
    exact congrArg Dialogue.done found
  obtain ⟨written, filled, looked, unfilled⟩ := told
  exact ⟨reached, written, filled, looked, unfilled, returned,
    returned_values_have_origins.1 _ bystanders _ 0 _ ended reached (.inl true) video returned,
    returned_values_have_origins.2 reads Empty.elim nofun bystanders _ 0 _ ended reached true video
      returned⟩

end ClipFeed.Cache
