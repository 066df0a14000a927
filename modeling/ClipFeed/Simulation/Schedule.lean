import ClipFeed.Cache.Gateway
import ClipFeed.Simulation.World
/-!
Tasks side by side in one world. The clock moves to the next time at which anything is due only
when everybody waits; what is due at one time goes on in the order in which the waits began. A task
that is dropped while it holds a lock leaves a release behind, which runs on its own.
-/

namespace ClipFeed.Simulation

/-- An action that waits. Without a time it waits forever. -/
structure Waiting (α : Type) where
  due : Option Span
  /-- How many waits began before this one. -/
  order : Nat
  held : Option Cache.Lock
  resume : World → Action α × World

/-- How far a task has come. A task may have a time at which it is dropped. -/
inductive Task (α : Type) where
  | waiting (state : Waiting α) (dropAt : Option Span)
  | ended (result : Option α) (time : Span)

def heldAfter (held : Option Cache.Lock) : Effect → Option Cache.Lock
  | .hold lock => some lock
  | .unhold => none
  | _ => held

/-- Runs an action up to its end or to the first effect that takes time. -/
def proceed {α : Type} (held : Option Cache.Lock) : Action α → World → (α ⊕ Waiting α) × World
  | Dialogue.done a, w => (.inl a, w)
  | Dialogue.ask e next, w =>
    let (appointment, w) := w.begin e
    let held := heldAfter held e
    if appointment.due.any (· ≤ w.now) then
      let (answer, w) := appointment.meet w
      proceed held (next answer) w
    else
      let resume (w : World) :=
        let (answer, w) := appointment.meet w
        (next answer, w)
      (.inr ⟨appointment.due, w.waits, held, resume⟩, { w with waits := w.waits + 1 })

namespace Task

def start {α : Type} (time : Span) (dropAt : Option Span) (run : World → Action α × World) :
    Task α :=
  .waiting ⟨some time, 0, none, run⟩ dropAt

def isDue {α : Type} (now : Span) : Task α → Bool
  | .waiting s _ => s.due.any (· ≤ now)
  | .ended .. => false

def isEnded {α : Type} : Task α → Bool
  | .ended .. => true
  | .waiting .. => false

def order {α : Type} : Task α → Nat
  | .waiting s _ => s.order
  | .ended .. => 0

/-- The times at which something happens to the task. -/
def times {α : Type} : Task α → List Span
  | .ended .. => []
  | .waiting s dropAt => s.due.toList ++ dropAt.toList

/-- Goes on with a task. -/
def advance {α : Type} (t : Task α) (w : World) : Task α × World :=
  match t with
  | .ended result time => (.ended result time, w)
  | .waiting s dropAt =>
    let (action, w) := s.resume w
    match proceed s.held action w with
    | (.inl a, w) => (.ended (some a) w.now, w)
    | (.inr s, w) => (.waiting s dropAt, w)

/-- Goes on with a new task if it is due; otherwise its wait begins. -/
def enlist {α : Type} (t : Task α) (w : World) : Task α × World :=
  if t.isDue w.now then t.advance w
  else match t with
    | .waiting s dropAt =>
      (.waiting { s with order := w.waits } dropAt, { w with waits := w.waits + 1 })
    | t => (t, w)

/-- Drops a task whose time has come, and returns the lock that it still held. -/
def dropIfTime {α : Type} (now : Span) : Task α → Task α × Option Cache.Lock
  | .waiting s dropAt =>
    if dropAt.any (· ≤ now) then (.ended none now, s.held) else (.waiting s dropAt, none)
  | t => (t, none)

end Task

/-- Tasks in a world, with the releases that run on their own. -/
structure Scene (α : Type) where
  world : World
  gateway : Cache.Gateway
  tasks : List (Task α)
  releases : List (Task Unit)

namespace Scene

variable {α : Type}

def enlistAll {β : Type} (w : World) : List (Task β) → List (Task β) × World
  | [] => ([], w)
  | t :: ts =>
    let (t, w) := t.enlist w
    let (ts, w) := enlistAll w ts
    (t :: ts, w)

inductive Turn where
  | task (i : Nat)
  | release (i : Nat)

/-- The turns of all that is due, by when their waits began. -/
def turns (s : Scene α) : List Turn :=
  let ofTasks := s.tasks.zipIdx.filterMap fun (t, i) =>
    if t.isDue s.world.now then some (t.order, Turn.task i) else none
  let ofReleases := s.releases.zipIdx.filterMap fun (t, i) =>
    if t.isDue s.world.now then some (t.order, Turn.release i) else none
  ((ofTasks ++ ofReleases).mergeSort fun p q => p.1 ≤ q.1).map (·.2)

def take (s : Scene α) : Turn → Scene α
  | .task i =>
    match s.tasks[i]? with
    | some t =>
      let (t, world) := t.advance s.world
      { s with world, tasks := s.tasks.set i t }
    | none => s
  | .release i =>
    match s.releases[i]? with
    | some t =>
      let (t, world) := t.advance s.world
      { s with world, releases := s.releases.set i t }
    | none => s

/-- Drops the tasks whose time has come. The releases that they leave behind begin at once. -/
def dropTasks (s : Scene α) : Scene α :=
  let dropped := s.tasks.map (·.dropIfTime s.world.now)
  let left := dropped.filterMap fun (_, held) => held.map fun lock =>
    Task.start s.world.now none fun w => (s.gateway.releaseLock lock, w)
  let (left, world) := enlistAll s.world left
  { s with
    world, tasks := dropped.map (·.1), releases := (s.releases ++ left).filter (!·.isEnded) }

def nextTime (s : Scene α) : Option Span :=
  (s.tasks.flatMap Task.times ++ s.releases.flatMap Task.times).min?

/-- Runs the tasks until all have ended or nothing can happen any more, for so many rounds. -/
def rounds : (left : Nat) → Scene α → Scene α
  | 0, s => s
  | left + 1, s =>
    let s := (s.turns.foldl take s).dropTasks
    if s.tasks.all Task.isEnded then s
    else match s.nextTime with
      | none => s
      | some time => rounds left { s with world := { s.world with now := max s.world.now time } }

/-- How often a task can wait: to look up, lock, look again, compute, fill and release, and for
each poll to pause and look up. -/
def waits (g : Cache.Gateway) : Nat :=
  2 * g.pollAttempts + 32

/-- Runs new tasks to their end. -/
def run (s : Scene α) (tasks : List (Task α)) : Scene α :=
  let (tasks, world) := enlistAll s.world tasks
  let s := { s with world, tasks }
  s.rounds ((tasks.length + s.releases.length + 1) * waits s.gateway)

end Scene

end ClipFeed.Simulation
