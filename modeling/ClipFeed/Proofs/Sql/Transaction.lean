import ClipFeed.Proofs.Dialogue.Transcript
import ClipFeed.Sql.Store
import Mathlib.Tactic.SplitIfs
/-!
Transactions as plans. A plan is a list of stages, each a statement with what is checked of its
outcome; a transaction sends them in their order between its bounds, stops at the first that fails,
and is committed or rolled back accordingly.
-/

namespace ClipFeed.Sql

abbrev Sent := (q : Statement) × Reply q

/-- A statement with what is checked of its outcome. -/
structure Stage where
  statement : Statement
  check : Outcome → Except Store.Fault Unit

namespace Stage

variable {stage : Stage} {stages rest : List Stage} {xs ys : List Sent} {x : Sent}
  {o : Except Store.Fault Unit} {fault : Store.Fault}

/-- What a reply means for the transaction. -/
def verdict (stage : Stage) : Except ServerError Outcome → Except Store.Fault Unit
  | .ok outcome => stage.check outcome
  | .error e => .error (Failure.server e).toStore

def session (stage : Stage) : Session (Except Store.Fault Unit) :=
  .ask stage.statement fun reply => .done (stage.verdict reply)

def accepting (statement : Statement) : Stage :=
  ⟨statement, fun _ => .ok ()⟩

/-- A stage that has to find a row with a number. -/
def finding (q : Query) : Stage where
  statement := .query q
  check outcome := match outcome.rows.head?.mapM Row.integer with
    | .ok (some _) => .ok ()
    | .ok none => .error .notFound
    | .error failure => .error failure.toStore

/-- A stage that has to affect a row. -/
def changing (q : Query) : Stage where
  statement := .query q
  check outcome := if outcome.affected = 0 then .error .notFound else .ok ()

theorem toStore_server_ne_notFound (e : ServerError) :
    (Failure.server e).toStore ≠ .notFound := by
  simp only [Failure.toStore]
  cases e.code with
  | none => nofun
  | some code =>
    simp only
    split_ifs <;> nofun

private theorem toStore_integer_ne_notFound {row : List Cell} {failure : Failure}
    (unreadable : Row.integer row = .error failure) : failure.toStore ≠ .notFound := by
  cases row with
  | nil =>
    cases unreadable
    nofun
  | cons cell rest => cases cell <;> cases unreadable <;> nofun

theorem verdict_accepting_ne_notFound (statement : Statement)
    (reply : Except ServerError Outcome) :
    (accepting statement).verdict reply ≠ .error .notFound := by
  cases reply with
  | error e => exact fun same => toStore_server_ne_notFound e (Except.error.inj same)
  | ok outcome => nofun

private theorem verdict_finding_row (q : Query) (row : List Cell) (rows : List (List Cell))
    (affected : Nat) : (finding q).verdict (.ok ⟨row :: rows, affected⟩) =
      ((Row.integer row).mapError Failure.toStore).map fun _ => () := by
  simp only [verdict, finding, List.head?_cons, Option.mapM_some]
  cases Row.integer row <;> rfl

/-- A row is missing exactly if none was found. -/
theorem finding_notFound_iff {q : Query} {reply : Except ServerError Outcome} :
    (finding q).verdict reply = .error .notFound ↔
      ∃ outcome, reply = .ok outcome ∧ outcome.rows = [] := by
  cases reply with
  | error e =>
    refine iff_of_false (fun missing => ?_) nofun
    exact toStore_server_ne_notFound e (Except.error.inj missing)
  | ok outcome =>
    obtain ⟨rows, affected⟩ := outcome
    cases rows with
    | nil => exact iff_of_true rfl ⟨_, rfl, rfl⟩
    | cons row rows =>
      refine iff_of_false (fun missing => ?_) nofun
      rw [verdict_finding_row] at missing
      cases read : Row.integer row with
      | error failure =>
        rw [read] at missing
        exact toStore_integer_ne_notFound read (Except.error.inj missing)
      | ok n =>
        rw [read] at missing
        cases missing

theorem changing_notFound_iff {q : Query} {reply : Except ServerError Outcome} :
    (changing q).verdict reply = .error .notFound ↔
      ∃ outcome, reply = .ok outcome ∧ outcome.affected = 0 := by
  cases reply with
  | error e =>
    refine iff_of_false (fun missing => ?_) nofun
    exact toStore_server_ne_notFound e (Except.error.inj missing)
  | ok outcome =>
    simp [verdict, changing]

theorem touch_eq (q : Query) : Session.touch q = (accepting (.query q)).session := by
  refine congrArg (Dialogue.ask (Statement.query q)) (funext fun reply => ?_)
  cases reply <;> rfl

theorem change_eq (q : Query) : Session.change q = (changing q).session := by
  refine congrArg (Dialogue.ask (Statement.query q)) (funext fun reply => ?_)
  cases reply with
  | error e => rfl
  | ok outcome => rfl

theorem lockVideo_eq (id : Int64) : Session.lockVideo id = (finding (Query.lock id)).session := by
  refine congrArg (Dialogue.ask (Statement.query (Query.lock id))) (funext fun reply => ?_)
  cases reply with
  | error e => rfl
  | ok outcome =>
    have ready (o : Except Failure Outcome) : (pure o : Session _) = .done o := rfl
    simp only [verdict, finding, Dialogue.done_bind, ready, Except.mapError, Except.bind]
    cases outcome.rows.head?.mapM Row.integer with
    | error failure => rfl
    | ok row => cases row <;> rfl

theorem session_andThen (stage : Stage) (next : Session (Except Store.Fault Unit)) :
    stage.session.andThen next = .ask stage.statement fun reply =>
      match stage.verdict reply with
      | .ok () => next
      | .error fault => .done (.error fault) := by
  refine congrArg (Dialogue.ask stage.statement) (funext fun reply => ?_)
  simp only [Dialogue.done_bind]
  cases stage.verdict reply <;> rfl

private theorem andThen_done (s : Session (Except Store.Fault Unit)) :
    s.andThen (.done (.ok ())) = s := by
  calc s.andThen (.done (.ok ()))
    _ = s.bind .done := congrArg s.bind (funext fun o => by cases o <;> rfl)
    _ = s := Dialogue.bind_done s

private theorem andThen_assoc (s t u : Session (Except Store.Fault Unit)) :
    (s.andThen t).andThen u = s.andThen (t.andThen u) := by
  refine (Dialogue.bind_assoc s _ _).trans (congrArg s.bind (funext fun o => ?_))
  cases o <;> rfl

/-- The stages in their order, up to the first that fails. -/
def inOrder : List Stage → Session (Except Store.Fault Unit)
  | [] => .done (.ok ())
  | stage :: rest => stage.session.andThen (inOrder rest)

theorem inOrder_singleton (stage : Stage) : inOrder [stage] = stage.session :=
  andThen_done _

private theorem inOrder_concat (stages : List Stage) (last : Stage) :
    inOrder (stages ++ [last]) = (inOrder stages).andThen last.session := by
  induction stages with
  | nil => exact inOrder_singleton last
  | cons stage rest ih => rw [List.cons_append, inOrder, ih, inOrder, andThen_assoc]

/-- How stages may be replied: in their order, all of them or up to the first that fails. -/
inductive Course : List Stage → List Sent → Except Store.Fault Unit → Prop where
  | ended : Course [] [] (.ok ())
  | passed {stage : Stage} {rest : List Stage} {reply : Except ServerError Outcome}
      {xs : List Sent} {o : Except Store.Fault Unit} (passed : stage.verdict reply = .ok ())
      (further : Course rest xs o) : Course (stage :: rest) (⟨stage.statement, reply⟩ :: xs) o
  | failed {stage : Stage} {rest : List Stage} {reply : Except ServerError Outcome}
      {fault : Store.Fault} (failed : stage.verdict reply = .error fault) :
      Course (stage :: rest) [⟨stage.statement, reply⟩] (.error fault)

private theorem ends_inOrder_iff : (inOrder stages).Ends xs o ↔ Course stages xs o := by
  induction stages generalizing xs with
  | nil =>
    rw [inOrder, Dialogue.ends_done_iff]
    constructor
    · rintro ⟨rfl, rfl⟩
      exact .ended
    · intro course
      cases course
      exact ⟨rfl, rfl⟩
  | cons stage rest ih =>
    rw [inOrder, session_andThen, Dialogue.ends_ask_iff]
    constructor
    · rintro ⟨reply, ys, rfl, further⟩
      split at further
      · next passed => exact .passed passed (ih.mp further)
      · next fault failed =>
        obtain ⟨rfl, rfl⟩ := Dialogue.ends_done_iff.mp further
        exact .failed failed
    · intro course
      cases course with
      | passed passed further =>
        refine ⟨_, _, rfl, ?_⟩
        simp only [passed]
        exact ih.mpr further
      | failed failed =>
        refine ⟨_, _, rfl, ?_⟩
        simp only [failed]
        exact .done _

/-- Whether a transcript opens with a reply to each of the stages and all of them pass. -/
def Passed : List Stage → List Sent → Prop
  | [], _ => True
  | _ :: _, [] => False
  | stage :: rest, x :: xs =>
    x.1 = stage.statement ∧ stage.verdict x.2 = .ok () ∧ Passed rest xs

/-- Whether the first stage that fails in a transcript does so with a fault. -/
def FailedWith (fault : Store.Fault) (stages : List Stage) (xs : List Sent) : Prop :=
  ∃ before stage behind reply, stages = before ++ stage :: behind ∧ Passed before xs ∧
    xs[before.length]? = some ⟨stage.statement, reply⟩ ∧ stage.verdict reply = .error fault

theorem failedWith_cons {reply : Except ServerError Outcome} :
    FailedWith fault (stage :: rest) (⟨stage.statement, reply⟩ :: xs) ↔
      stage.verdict reply = .error fault ∨
        stage.verdict reply = .ok () ∧ FailedWith fault rest xs := by
  constructor
  · rintro ⟨before, other, behind, answer, split, passed, here, failed⟩
    cases before with
    | nil =>
      obtain ⟨rfl, rfl⟩ := List.cons.inj split
      obtain ⟨-, same⟩ := Sigma.mk.inj (Option.some.inj here)
      cases same
      exact .inl failed
    | cons first before =>
      obtain ⟨rfl, rfl⟩ := List.cons.inj split
      exact .inr ⟨passed.2.1, before, other, behind, answer, rfl, passed.2.2, here, failed⟩
  · rintro (failed | ⟨passes, before, other, behind, answer, rfl, passed, here, failed⟩)
    · exact ⟨[], stage, rest, reply, rfl, trivial, rfl, failed⟩
    · exact ⟨stage :: before, other, behind, answer, rfl, ⟨rfl, passes, passed⟩, here, failed⟩

namespace Course

theorem statements (course : Course stages xs o) :
    ∃ n, xs.map (·.1) = (stages.take n).map (·.statement) := by
  induction course with
  | ended => exact ⟨0, rfl⟩
  | passed _ _ ih =>
    obtain ⟨n, same⟩ := ih
    exact ⟨n + 1, congrArg (_ :: ·) same⟩
  | failed _ => exact ⟨1, rfl⟩

/-- All stages pass exactly if that is the outcome, whatever is sent behind them. -/
theorem ok_iff (course : Course stages xs o) (tail : List Sent) :
    o = .ok () ↔ Passed stages (xs ++ tail) := by
  induction course with
  | ended => exact iff_of_true rfl trivial
  | passed passed _ ih => exact ih.trans ⟨fun rest => ⟨rfl, passed, rest⟩, fun all => all.2.2⟩
  | failed failed =>
    refine iff_of_false nofun fun all => ?_
    have passes := failed.symm.trans all.2.1
    cases passes

/-- The outcome is the fault of the first stage that fails. -/
theorem error_iff (course : Course stages xs o) (tail : List Sent) :
    o = .error fault ↔ FailedWith fault stages (xs ++ tail) := by
  induction course with
  | ended =>
    refine iff_of_false nofun ?_
    rintro ⟨before, _, _, _, split, _⟩
    simp at split
  | passed passed _ ih =>
    rw [List.cons_append, failedWith_cons, passed, ih]
    simp
  | failed failed =>
    rw [List.cons_append, failedWith_cons, failed]
    simp

/-- A last stage is replied exactly if all before it pass. -/
theorem last_iff {last : Stage} (course : Course (stages ++ [last]) xs o)
    (other : ∀ stage ∈ stages, stage.statement ≠ last.statement) (tail : List Sent) :
    last.statement ∈ xs.map (·.1) ↔ Passed stages (xs ++ tail) := by
  induction stages generalizing xs with
  | nil =>
    refine iff_of_true ?_ trivial
    cases course <;> exact List.mem_cons_self
  | cons stage rest ih =>
    have differs : last.statement ≠ stage.statement := (other stage List.mem_cons_self).symm
    cases course with
    | passed passed further =>
      have later := ih further fun s member => other s (List.mem_cons_of_mem _ member)
      rw [List.map_cons, List.mem_cons, later]
      exact ⟨fun sent => ⟨rfl, passed, sent.resolve_left differs⟩, fun all => .inr all.2.2⟩
    | failed failed =>
      refine iff_of_false ?_ fun all => ?_
      · simpa using differs
      · have passes := failed.symm.trans all.2.1
        cases passes

end Course

end Stage

namespace Session

open Stage

/-- A session whose fault is returned once everything is rolled back. -/
def guarded (s : Session (Except Store.Fault Unit)) : Session (Except Store.Fault Unit) := do
  match ← s with
  | .ok () => return .ok ()
  | .error fault => undo fault

/-- Behind `BEGIN` everything is undone that is not committed, a failing `COMMIT` included. -/
theorem transaction_eq (steps : List Stage) :
    transaction (inOrder steps) =
      (accepting .begin).session.andThen (guarded (inOrder (steps ++ [accepting .commit]))) := by
  rw [session_andThen, inOrder_concat]
  refine congrArg (Dialogue.ask Statement.begin) (funext fun reply => ?_)
  cases reply with
  | error e => rfl
  | ok outcome =>
    refine Eq.trans (congrArg (inOrder steps).bind (funext fun o => ?_))
      (Dialogue.bind_assoc (inOrder steps) _ _).symm
    cases o with
    | error fault => rfl
    | ok passed =>
      -- a refused `COMMIT` is undone as any other stage is, so it can stand as the last one
      refine congrArg (Dialogue.ask Statement.commit) (funext fun reply => ?_)
      cases reply <;> rfl

end Session

/-- The statements of a transaction, its bounds included. -/
def plan (steps : List Stage) : List Stage :=
  .accepting .begin :: (steps ++ [.accepting .commit])

/-- How a transaction may go: it is not begun, it is committed, or it is undone after the first
stage that fails. -/
inductive Transacted (steps : List Stage) : List Sent → Except Store.Fault Unit → Prop where
  | refused (e : ServerError) :
      Transacted steps [⟨.begin, .error e⟩] (.error (Failure.server e).toStore)
  | committed {begun : Outcome} {xs : List Sent}
      (course : Stage.Course (steps ++ [.accepting .commit]) xs (.ok ())) :
      Transacted steps (⟨.begin, .ok begun⟩ :: xs) (.ok ())
  | undone {begun : Outcome} {xs : List Sent} {fault : Store.Fault}
      {reply : Except ServerError Outcome}
      (course : Stage.Course (steps ++ [.accepting .commit]) xs (.error fault)) :
      Transacted steps (⟨.begin, .ok begun⟩ :: (xs ++ [⟨.rollback, reply⟩])) (.error fault)

namespace Session

open Stage

variable {steps : List Stage} {s : Session (Except Store.Fault Unit)} {xs : List Sent}
  {o : Except Store.Fault Unit}

private theorem ends_undo_iff {fault : Store.Fault} :
    (undo fault).Ends xs o ↔ ∃ reply, xs = [⟨.rollback, reply⟩] ∧ o = .error fault := by
  refine Dialogue.ends_ask_iff.trans (exists_congr fun reply => ?_)
  constructor
  · rintro ⟨ys, rfl, ended⟩
    obtain ⟨rfl, rfl⟩ := Dialogue.ends_done_iff.mp ended
    exact ⟨rfl, rfl⟩
  · rintro ⟨rfl, rfl⟩
    exact ⟨[], rfl, .done _⟩

private theorem ends_guarded_iff : (guarded s).Ends xs o ↔
    (o = .ok () ∧ s.Ends xs (.ok ())) ∨ ∃ fault ys reply, o = .error fault ∧
      s.Ends ys (.error fault) ∧ xs = ys ++ [⟨.rollback, reply⟩] := by
  constructor
  · intro ended
    obtain ⟨ys, verdict, zs, first, second, rfl⟩ := ended.of_bind
    cases verdict with
    | ok passed =>
      obtain ⟨rfl, rfl⟩ := Dialogue.ends_done_iff.mp second
      exact .inl ⟨rfl, by rwa [List.append_nil]⟩
    | error fault =>
      obtain ⟨reply, rfl, rfl⟩ := ends_undo_iff.mp second
      exact .inr ⟨fault, ys, reply, rfl, first, rfl⟩
  · rintro (⟨rfl, ended⟩ | ⟨fault, ys, reply, rfl, ended, rfl⟩)
    · rw [← List.append_nil xs]
      exact ended.bind (.done _)
    · exact ended.bind (ends_undo_iff.mpr ⟨reply, rfl, rfl⟩)

/-- A transaction goes in one of these ways, and in each of them if it is replied so. -/
theorem ends_transaction_iff :
    (transaction (inOrder steps)).Ends xs o ↔ Transacted steps xs o := by
  rw [transaction_eq, session_andThen, Dialogue.ends_ask_iff]
  constructor
  · rintro ⟨reply, ys, rfl, further⟩
    cases reply with
    | error e =>
      obtain ⟨rfl, rfl⟩ := Dialogue.ends_done_iff.mp further
      exact .refused e
    | ok begun =>
      rcases ends_guarded_iff.mp further with ⟨rfl, ended⟩ | ⟨fault, zs, reply, rfl, ended, rfl⟩
      · exact .committed (ends_inOrder_iff.mp ended)
      · exact .undone (ends_inOrder_iff.mp ended)
  · intro transacted
    cases transacted with
    | refused e => exact ⟨.error e, [], rfl, .done _⟩
    | @committed begun ys course =>
      have ended := ends_inOrder_iff.mpr course
      exact ⟨.ok begun, ys, rfl, ends_guarded_iff.mpr (.inl ⟨rfl, ended⟩)⟩
    | @undone begun ys fault reply course =>
      have ended := ends_inOrder_iff.mpr course
      exact ⟨.ok begun, _, rfl, ends_guarded_iff.mpr (.inr ⟨fault, ys, reply, rfl, ended, rfl⟩)⟩

end Session

/-- What can be told of a transcript of a transaction. -/
structure Settled (steps : List Stage) (xs : List Sent) (o : Except Store.Fault Unit) : Prop where
  /-- Nothing is sent but the plan in its order, and a `ROLLBACK` behind it. -/
  order : ∃ n tail, xs.map (·.1) = ((plan steps).take n).map (·.statement) ++ tail ∧
    (tail = [] ∨ tail = [.rollback])
  commits : .commit ∈ xs.map (·.1) ↔ Stage.Passed (.accepting .begin :: steps) xs
  undoes : .rollback ∈ xs.map (·.1) ↔
    Stage.Passed [.accepting .begin] xs ∧ ¬ Stage.Passed (plan steps) xs
  succeeds : o = .ok () ↔ Stage.Passed (plan steps) xs
  fails : ∀ fault, o = .error fault ↔ Stage.FailedWith fault (plan steps) xs

namespace Transacted

open Stage

variable {steps : List Stage} {xs tail : List Sent} {o : Except Store.Fault Unit} {begun : Outcome}

/-- Among queries and behind them only a `ROLLBACK` is one. -/
theorem rollback_not_sent (queries : ∀ stage ∈ steps, ∃ q, stage.statement = .query q)
    (course : Course (steps ++ [accepting .commit]) xs o) : .rollback ∉ xs.map (·.1) := by
  obtain ⟨n, sent⟩ := course.statements
  rw [sent]
  intro member
  obtain ⟨stage, taken, same⟩ := List.mem_map.mp member
  rcases List.mem_append.mp (List.mem_of_mem_take taken) with step | last
  · obtain ⟨q, query⟩ := queries stage step
    rw [query] at same
    cases same
  · obtain rfl := List.mem_singleton.mp last
    cases same

private theorem settled_of_course (queries : ∀ stage ∈ steps, ∃ q, stage.statement = .query q)
    (course : Course (steps ++ [accepting .commit]) xs o)
    (closed : (o = .ok () ∧ tail = []) ∨
      ∃ fault reply, o = .error fault ∧ tail = [⟨.rollback, reply⟩]) :
    Settled steps (⟨.begin, .ok begun⟩ :: (xs ++ tail)) o := by
  have opened (stages : List Stage) :
      Passed (accepting .begin :: stages) (⟨.begin, .ok begun⟩ :: (xs ++ tail)) ↔
        Passed stages (xs ++ tail) :=
    ⟨fun all => all.2.2, fun rest => ⟨rfl, rfl, rest⟩⟩
  have onlyQueries : ∀ stage ∈ steps, stage.statement ≠ (accepting .commit).statement := by
    intro stage member
    obtain ⟨q, query⟩ := queries stage member
    rw [query]
    nofun
  constructor
  case order =>
    obtain ⟨n, sent⟩ := course.statements
    refine ⟨n + 1, tail.map (·.1), ?_, ?_⟩
    · rw [List.map_cons, List.map_append, sent]
      rfl
    · rcases closed with ⟨-, rfl⟩ | ⟨fault, reply, -, rfl⟩
      · exact .inl rfl
      · exact .inr rfl
  case commits =>
    rw [opened, ← course.last_iff onlyQueries tail]
    rcases closed with ⟨-, rfl⟩ | ⟨fault, reply, -, rfl⟩
    · simp [accepting]
    · simp [accepting]
  case undoes =>
    have clean := rollback_not_sent queries course
    rw [opened, plan, opened, ← course.ok_iff tail, List.map_cons, List.map_append]
    rcases closed with ⟨rfl, rfl⟩ | ⟨fault, reply, rfl, rfl⟩
    · simpa using clean
    · simp [Passed]
  case succeeds => rw [plan, opened, course.ok_iff tail]
  case fails =>
    intro fault
    have behind : FailedWith fault (plan steps) (⟨.begin, .ok begun⟩ :: (xs ++ tail)) ↔
        FailedWith fault (steps ++ [accepting .commit]) (xs ++ tail) :=
      failedWith_cons.trans
        ⟨fun either => (either.resolve_left nofun).2, fun later => .inr ⟨rfl, later⟩⟩
    rw [behind, course.error_iff tail]

private theorem settled_of_refused (e : ServerError) :
    Settled steps [⟨.begin, .error e⟩] (.error (Failure.server e).toStore) := by
  have closed (stages : List Stage) :
      ¬ Passed (accepting .begin :: stages) [⟨.begin, .error e⟩] := fun all => nomatch all.2.1
  constructor
  case order => exact ⟨1, [], rfl, .inl rfl⟩
  case commits => exact iff_of_false (by simp) (closed _)
  case undoes => exact iff_of_false (by simp) fun undone => closed _ undone.1
  case succeeds => exact iff_of_false nofun (closed _)
  case fails =>
    intro fault
    have here : FailedWith fault (plan steps) [⟨.begin, .error e⟩] ↔
        (accepting .begin).verdict (.error e) = .error fault :=
      failedWith_cons.trans ⟨fun either => either.resolve_right nofun, .inl⟩
    exact here.symm

/-- Every transcript of a transaction of queries is settled. -/
theorem settled (queries : ∀ stage ∈ steps, ∃ q, stage.statement = .query q)
    (transacted : Transacted steps xs o) : Settled steps xs o := by
  cases transacted with
  | refused e => exact settled_of_refused e
  | @committed begun ys course =>
    rw [← List.append_nil ys]
    exact settled_of_course queries course (.inl ⟨rfl, rfl⟩)
  | @undone begun ys fault reply course =>
    exact settled_of_course queries course (.inr ⟨fault, reply, rfl, rfl⟩)

private theorem course_ne_notFound {stages : List Stage} (course : Course stages xs o)
    (lenient : ∀ stage ∈ stages, ∀ reply, stage.verdict reply ≠ .error .notFound) :
    o ≠ .error .notFound := by
  induction course with
  | ended => nofun
  | passed _ _ ih => exact ih fun stage member => lenient stage (List.mem_cons_of_mem _ member)
  | failed failed =>
    rw [← failed]
    exact lenient _ List.mem_cons_self _

/-- If only the first stage can miss something, the outcome is that it did. -/
theorem notFound_iff {first : Stage} {rest : List Stage}
    (lenient : ∀ stage ∈ rest, ∀ reply, stage.verdict reply ≠ .error .notFound)
    (transacted : Transacted (first :: rest) xs o) :
    o = .error .notFound ↔ ∃ begun reply tail,
      xs = ⟨.begin, .ok begun⟩ :: ⟨first.statement, reply⟩ :: tail ∧
        first.verdict reply = .error .notFound := by
  have behind : ∀ stage ∈ rest ++ [accepting .commit], ∀ reply,
      stage.verdict reply ≠ .error .notFound := by
    intro stage member
    rcases List.mem_append.mp member with step | last
    · exact lenient stage step
    · rw [List.mem_singleton.mp last]
      exact verdict_accepting_ne_notFound _
  have found {begun : Outcome} {reply : Except ServerError Outcome} {ys : List Sent}
      (passed : first.verdict reply = .ok ()) :
      ¬ ∃ begun' reply' tail, (⟨.begin, .ok begun⟩ :: ⟨first.statement, reply⟩ :: ys : List Sent) =
        ⟨.begin, .ok begun'⟩ :: ⟨first.statement, reply'⟩ :: tail ∧
          first.verdict reply' = .error .notFound := by
    rintro ⟨_, _, _, ⟨⟩, missing⟩
    cases passed.symm.trans missing
  cases transacted with
  | refused e =>
    refine iff_of_false (fun missing => ?_) (by rintro ⟨_, _, _, ⟨⟩, _⟩)
    exact toStore_server_ne_notFound e (Except.error.inj missing)
  | committed course =>
    cases course with
    | passed passed _ => exact iff_of_false nofun (found passed)
  | undone course =>
    cases course with
    | passed passed further =>
      exact iff_of_false (course_ne_notFound further behind) (found passed)
    | failed failed =>
      rw [← failed]
      constructor
      · intro missing
        exact ⟨_, _, _, rfl, missing⟩
      · rintro ⟨_, _, _, ⟨⟩, missing⟩
        exact missing

end Transacted

end ClipFeed.Sql
