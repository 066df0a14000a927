import ClipFeed.Proofs.Video.Likes
/-!
Refused statements. What a refusal is called follows from the code of the database. A session heeds
a refusal if it sends nothing behind it but a `ROLLBACK` and if the refusal alone tells its outcome.
Every call of the store does, and so does whatever is put together from sessions that do.
-/

namespace ClipFeed.Sql

namespace Failure

variable {e : ServerError} {rest : String}

private theorem isIntegrityClass_iff {code : String} :
    isIntegrityClass code = true ↔ ∃ rest, code = "23" ++ rest := by
  rw [isIntegrityClass, beq_iff_eq]
  constructor
  · intro opens
    refine ⟨String.ofList (code.toList.drop 2), String.toList_injective ?_⟩
    calc code.toList
      _ = code.toList.take 2 ++ code.toList.drop 2 := (List.take_append_drop 2 _).symm
      _ = ("23" ++ String.ofList (code.toList.drop 2)).toList := by simp [opens]
  · rintro ⟨rest, rfl⟩
    rw [String.toList_append]
    rfl

private theorem append_ne {other : String} (differs : rest ≠ other) :
    "23" ++ rest ≠ "23" ++ other :=
  fun same => differs ((String.append_right_inj _).mp same)

theorem toStore_of_unique (code : e.code = some "23505") :
    (Failure.server e).toStore = .duplicate (e.constraint.getD "unknown") := by
  simp only [toStore, code]
  rfl

theorem toStore_of_foreign (code : e.code = some "23503") :
    (Failure.server e).toStore = .invalidInput e.message := by
  simp only [toStore, code]
  rfl

theorem toStore_of_representation (code : e.code = some "22P02") :
    (Failure.server e).toStore = .invalidInput e.message := by
  simp only [toStore, code]
  rfl

theorem toStore_of_canceled (code : e.code = some "57014") :
    (Failure.server e).toStore = .timeout := by
  simp only [toStore, code]
  rfl

theorem toStore_of_violated (code : e.code = some ("23" ++ rest)) (unique : rest ≠ "505")
    (foreign : rest ≠ "503") : (Failure.server e).toStore = .integrity e.message := by
  have notUnique : "23" ++ rest ≠ uniqueViolation := append_ne unique
  have notForeign : "23" ++ rest ≠ foreignKeyViolation := append_ne foreign
  have violated : isIntegrityClass ("23" ++ rest) = true := isIntegrityClass_iff.mpr ⟨rest, rfl⟩
  have notOther : "23" ++ rest ≠ invalidTextRepresentation ∧ "23" ++ rest ≠ queryCanceled := by
    constructor <;> rintro same <;> rw [same] at violated <;> exact absurd violated (by decide)
  simp only [toStore, code, notUnique, notForeign, notOther.1, notOther.2, violated, or_self,
    if_true, if_false]

theorem toStore_of_other (apart : ∀ rest, e.code ≠ some ("23" ++ rest))
    (readable : e.code ≠ some "22P02") (running : e.code ≠ some "57014") :
    (Failure.server e).toStore = .persistence e.message := by
  cases given : e.code with
  | none => simp only [toStore, given]
  | some code =>
    rw [given] at apart readable running
    have notViolated : isIntegrityClass code ≠ true := by
      intro violated
      obtain ⟨rest, rfl⟩ := isIntegrityClass_iff.mp violated
      exact apart rest rfl
    have notUnique : code ≠ uniqueViolation := fun same => apart "505" (congrArg some same)
    have notForeign : code ≠ foreignKeyViolation := fun same => apart "503" (congrArg some same)
    have notRepresentation : code ≠ invalidTextRepresentation :=
      fun same => readable (congrArg some same)
    have notCanceled : code ≠ queryCanceled := fun same => running (congrArg some same)
    simp only [toStore, given, notUnique, notForeign, notRepresentation, notCanceled, notViolated,
      or_self, if_false]
    rfl

end Failure

/-- The refusal that is heeded: the first one. What a `ROLLBACK` undoes has failed already, so
nobody waits for the reply to it. -/
def heed : Option ServerError → (q : Statement) → Reply q → Option ServerError
  | some e, _, _ => some e
  | none, _, .ok _ => none
  | none, q, .error e => if q = .rollback then none else some e

private theorem heed_rollback (refused : Option ServerError) (reply : Reply .rollback) :
    heed refused .rollback reply = refused := by
  cases refused with
  | some e => rfl
  | none => cases reply <;> rfl

private theorem heed_error {q : Statement} (awaited : q ≠ .rollback) (e : ServerError) :
    heed none q (.error e) = some e :=
  if_neg awaited

/-- Behind a refusal nothing is sent but a `ROLLBACK`. -/
def heeding : Contract Statement Reply (Option ServerError) where
  asks refused q := refused = none ∨ q = .rollback
  hears _ _ _ := True
  write := heed

/-- The fault of a call whose statement was refused. -/
def Faulted {α : Type} (e : ServerError) (o : Except Store.Fault α) : Prop :=
  o = .error (Failure.server e).toStore

namespace Session

variable {α β : Type} {told : ServerError → α → Prop} {further : ServerError → β → Prop}
  {refused : Option ServerError} {s : Session α} {e : ServerError}

/-- Whether a session heeds a refusal, be it one that came before, and ends with what it tells. -/
def Heeds (told : ServerError → α → Prop) (refused : Option ServerError) (s : Session α) : Prop :=
  s.Meets heeding (fun refused a => ∀ e ∈ refused, told e a) refused

theorem heeds_done {a : α} (known : told e a) : Heeds told (some e) (.done a) := by
  rintro _ ⟨⟩
  exact known

theorem heeds_done_none (a : α) : Heeds told none (.done a) := nofun

private theorem heeds_ask {q : Statement} {next : Reply q → Session α} (awaited : q ≠ .rollback)
    (passed : ∀ outcome, Heeds told none (next (.ok outcome)))
    (failed : ∀ e, Heeds told (some e) (next (.error e))) : Heeds told none (.ask q next) := by
  refine ⟨.inl rfl, ?_⟩
  rintro (e | outcome) -
  · have heard : heeding.write none q (.error e) = some e := heed_error awaited e
    rw [heard]
    exact failed e
  · exact passed outcome

theorem Heeds.bind {f : α → Session β} (first : s.Heeds told refused)
    (passed : ∀ a, (f a).Heeds further none)
    (failed : ∀ e a, told e a → (f a).Heeds further (some e)) :
    (s >>= f).Heeds further refused := by
  refine Dialogue.Meets.bind first fun refused a known => ?_
  cases refused with
  | none => exact passed a
  | some e => exact failed e a (known e rfl)

/-- Behind the first refusal of a run there is nothing but a `ROLLBACK`, and the refusal tells the
outcome. -/
theorem Heeds.of_ends {before after : List Sent} {q : Statement} {a : α}
    (heeds : s.Heeds told none) (first : ∀ x ∈ before, ∃ outcome, x.2 = .ok outcome)
    (awaited : q ≠ .rollback) (ended : s.Ends (before ++ ⟨q, .error e⟩ :: after) a) :
    (∀ x ∈ after, x.1 = .rollback) ∧ told e a := by
  have accepted : heeding.writeAll none before = none := by
    clear ended
    induction before with
    | nil => rfl
    | cons x before ih =>
      obtain ⟨q, reply⟩ := x
      obtain ⟨outcome, rfl⟩ := first _ List.mem_cons_self
      exact ih fun y member => first y (List.mem_cons_of_mem _ member)
  have stays (xs : List Sent) : heeding.writeAll (some e) xs = some e := by
    induction xs with
    | nil => rfl
    | cons x xs ih => exact ih
  have heard (xs : List Sent) :
      heeding.writeAll none (before ++ ⟨q, .error e⟩ :: xs) = some e := by
    calc heeding.writeAll none (before ++ ⟨q, .error e⟩ :: xs)
      _ = heeding.writeAll (heed (heeding.writeAll none before) q (.error e)) xs :=
        List.foldl_append
      _ = heeding.writeAll (some e) xs := by rw [accepted, heed_error awaited]
      _ = some e := stays xs
  constructor
  · intro x member
    obtain ⟨ys, zs, rfl⟩ := List.append_of_mem member
    have split : before ++ ⟨q, .error e⟩ :: (ys ++ x :: zs) =
        (before ++ ⟨q, .error e⟩ :: ys) ++ x :: zs := by simp
    rw [split] at ended
    have may := Dialogue.Meets.asks_of_ends heeds (fun _ _ _ => trivial) ended
    rw [heard ys] at may
    exact may.resolve_left nofun
  · exact Dialogue.Meets.of_ends heeds (fun _ _ _ => trivial) ended e (heard after)

/-- A single statement whose reply is all there is to its outcome. -/
theorem heeds_single {q : Statement} {made : Reply q → α} (awaited : q ≠ .rollback)
    (failed : ∀ e, told e (made (.error e))) :
    Heeds told none (.ask q fun reply => .done (made reply)) :=
  heeds_ask awaited (fun _ => heeds_done_none _) fun e => heeds_done (failed e)

private theorem heeds_all (q : Query) (read : List Cell → Except Failure α) :
    (all q read).Heeds Faulted none :=
  heeds_single nofun fun _ => rfl

private theorem heeds_first? (q : Query) (read : List Cell → Except Failure α) :
    (first? q read).Heeds Faulted none :=
  heeds_single nofun fun _ => rfl

theorem heeds_stage {stage : Stage} (awaited : stage.statement ≠ .rollback) :
    stage.session.Heeds Faulted none :=
  heeds_single awaited fun _ => rfl

private theorem heeds_change (q : Query) : (change q).Heeds Faulted none := by
  rw [Stage.change_eq]
  exact heeds_stage nofun

theorem Heeds.andThen {s t : Session (Except Store.Fault Unit)} (first : s.Heeds Faulted none)
    (second : t.Heeds Faulted none) : (s.andThen t).Heeds Faulted none := by
  refine first.bind ?_ ?_
  · rintro (fault | passed)
    · exact heeds_done_none _
    · exact second
  · rintro e _ rfl
    exact heeds_done rfl

private theorem heeds_inOrder {stages : List Stage}
    (awaited : ∀ stage ∈ stages, stage.statement ≠ .rollback) :
    (Stage.inOrder stages).Heeds Faulted none := by
  induction stages with
  | nil => exact heeds_done_none _
  | cons stage rest ih =>
    exact (heeds_stage (awaited stage List.mem_cons_self)).andThen
      (ih fun other member => awaited other (List.mem_cons_of_mem _ member))

/-- What has failed stays so while it is undone. -/
theorem heeds_undo {fault : Store.Fault} (known : ∀ e ∈ refused,
    Faulted e (.error fault : Except Store.Fault Unit)) :
    (undo fault).Heeds Faulted refused := by
  refine ⟨.inr rfl, fun reply _ => ?_⟩
  have heard : heeding.write refused .rollback reply = refused := heed_rollback refused reply
  rw [heard]
  exact known

theorem Heeds.guarded {s : Session (Except Store.Fault Unit)} (heeds : s.Heeds Faulted none) :
    (guarded s).Heeds Faulted none := by
  refine heeds.bind ?_ ?_
  · rintro (fault | passed)
    · exact heeds_undo nofun
    · exact heeds_done_none _
  · rintro e _ rfl
    apply heeds_undo
    rintro _ ⟨⟩
    rfl

private theorem heeds_transaction {steps : List Stage}
    (awaited : ∀ stage ∈ steps, stage.statement ≠ .rollback) :
    (transaction (Stage.inOrder steps)).Heeds Faulted none := by
  rw [transaction_eq]
  have bounded : ∀ stage ∈ steps ++ [.accepting .commit], stage.statement ≠ .rollback := by
    intro stage member
    rcases List.mem_append.mp member with step | last
    · exact awaited stage step
    · rw [List.mem_singleton.mp last]
      nofun
  have begun : (Stage.accepting .begin).session.Heeds Faulted none := heeds_stage nofun
  exact begun.andThen (heeds_inOrder bounded).guarded

private theorem heeds_create (submission : Submission) :
    (create submission).Heeds Faulted none := by
  refine (heeds_first? _ _).bind ?_ ?_
  · rintro (fault | _ | v) <;> exact heeds_done_none _
  · rintro e _ rfl
    exact heeds_done rfl

/-- Whatever is asked of the store, the first refusal is its fault. -/
theorem heeds_perform (call : Store.Call) : (perform call).Heeds Faulted none := by
  cases call with
  | listLatest page => exact heeds_all _ _
  | listPopular page => exact heeds_all _ _
  | listFollowing follower page => exact heeds_all _ _
  | likedAmong account videos =>
    rw [perform, likedAmong]
    split
    · exact heeds_done_none _
    · exact heeds_all _ _
  | find id => exact heeds_first? _ _
  | create submission => exact heeds_create submission
  | delete id => exact heeds_change _
  | like id account =>
    rw [perform, like_eq]
    exact heeds_transaction (by simp [likeStages, Stage.finding, Stage.accepting])
  | unlike id account =>
    rw [perform, unlike_eq]
    exact heeds_transaction (by simp [unlikeStages, Stage.changing, Stage.accepting])

end Session

end ClipFeed.Sql
