import ClipFeed.Action
import ClipFeed.Cache.Backend
import ClipFeed.Store.Memory
/-!
A world for actions: a cache and a store inside the process, faults that disturb single
operations, and a clock that moves only when somebody sets it. The world keeps what an observer
could see: the calls in order, the counted metrics and the logged events.
-/

namespace ClipFeed.Simulation

/-- What disturbs an operation: a delay, perhaps without end, and a fault behind it. -/
structure Disturbance (ε : Type) where
  delay : Span
  stalls : Bool
  fault : Option ε
  deriving DecidableEq, Repr

abbrev Disturbances (ε : Type) := List (String × Disturbance ε)

namespace Disturbances

/-- The name that stands for all operations without a disturbance of their own. -/
def others : String := "*"

def find? {ε : Type} (ds : Disturbances ε) (operation : String) : Option (Disturbance ε) :=
  ds.lookup operation <|> ds.lookup others

def put {ε : Type} (ds : Disturbances ε) (operation : String) (d : Option (Disturbance ε)) :
    Disturbances ε :=
  let kept := ds.filter fun (name, _) => name != operation
  match d with
  | some d => (operation, d) :: kept
  | none => kept

end Disturbances

structure World where
  now : Span
  backend : Cache.Backend
  /-- Whether cache calls reach the backend; otherwise they meet a cache that keeps nothing, and
  neither are seen nor disturbed. -/
  attached : Bool
  store : Store.Memory
  cacheFaults : Disturbances Cache.Fault
  storeFaults : Disturbances Store.Fault
  probeFaults : Disturbances Sql.Failure
  tokens : Nat
  /-- How many waits have begun. -/
  waits : Nat
  /-- The request identifier that is handed out. -/
  requestId : String
  trace : List (Span × String)
  counted : List Cache.Metric
  events : List Log.Event

def cacheCallText : Cache.Call → String
  | .get key => "get " ++ key
  | .set key _ ttl => "set " ++ key ++ " ttl=" ++ toString ttl.toMillis
  | .delete key => "delete " ++ key
  | .setIfAbsent key _ ttl => "set_if_absent " ++ key ++ " ttl=" ++ toString ttl.toMillis
  | .deleteIfEquals key _ => "delete_if_equals " ++ key

def latestText : Option Feed.LatestCursor → String
  | none => "start"
  | some c => toString c.before.unixNanos ++ "/" ++ match c.id with
    | some id => "Some(" ++ toString id ++ ")"
    | none => "None"

def popularText : Option Feed.PopularCursor → String
  | none => "start"
  | some c => toString c.likesCount ++ "/" ++ toString c.id

def storeCallText (call : Store.Call) : String :=
  call.operation ++ " " ++ match call with
    | .listLatest page => toString page.limit ++ " " ++ latestText page.cursor
    | .listPopular page => toString page.limit ++ " " ++ popularText page.cursor
    | .listFollowing follower page =>
      toString follower ++ " " ++ toString page.limit ++ " " ++ latestText page.cursor
    | .likedAmong account videos =>
      toString account ++ " [" ++ String.intercalate ", " (videos.map toString) ++ "]"
    | .find id | .delete id => toString id
    | .create submission => toString submission.authorId
    | .like id account | .unlike id account => toString id ++ " " ++ toString account

/-- When an effect is met, and how. -/
structure Appointment (α : Type) where
  due : Option Span
  meet : World → α × World

namespace World

def note (w : World) (label : String) : World :=
  { w with trace := (w.now, label) :: w.trace }

/-- Thirty-two hexadecimal digits that occur once. -/
def nextToken (w : World) : String × World :=
  let digits := Nat.toDigits 16 w.tokens
  (String.ofList (List.replicate (32 - digits.length) '0' ++ digits),
    { w with tokens := w.tokens + 1 })

def performCache (w : World) (call : Cache.Call) : call.Answer × World :=
  let (answer, backend) := w.backend.perform w.now call
  (answer, { w with backend })

def appoint {ε α : Type} (w : World) (d : Option (Disturbance ε)) (failed : ε → α)
    (meet : World → α × World) : Appointment α :=
  match d with
  | none => ⟨some w.now, meet⟩
  | some d =>
    ⟨if d.stalls then none else some (w.now + d.delay),
      match d.fault with
      | none => meet
      | some fault => fun w => (failed fault, w)⟩

/-- An appointment that is given up after a time; what is due exactly then is still met. -/
def within {α : Type} (w : World) (limit : Span) (silent : α) (a : Appointment α) :
    Appointment α :=
  match a.due with
  | some due => if due ≤ w.now + limit then a else ⟨some (w.now + limit), fun w => (silent, w)⟩
  | none => ⟨some (w.now + limit), fun w => (silent, w)⟩

def atOnce {α : Type} (w : World) (meet : World → α × World) : Appointment α :=
  ⟨some w.now, meet⟩

def begin (w : World) : (e : Effect) → Appointment e.Answer × World
  | .cache limit call =>
    if w.attached then
      let answer (w : World) :=
        let (a, w) := w.performCache call
        (Cache.Reply.answered a, w)
      let d := w.cacheFaults.find? call.operation
      (w.within limit .silent (w.appoint d .failed answer), w.note (cacheCallText call))
    else (w.atOnce fun w => (.answered call.disabledAnswer, w), w)
  | .store call =>
    let answer (w : World) :=
      let (a, store) := w.store.perform call
      (a, { w with store })
    (w.appoint (w.storeFaults.find? call.operation) .error answer, w.note (storeCallText call))
  | .probe =>
    (w.appoint (w.probeFaults.find? "health") .error fun w => (.ok (), w), w.note "health")
  | .sleep span => (⟨some (w.now + span), fun w => ((), w)⟩, w)
  | .lockToken => (w.atOnce nextToken, w)
  | .requestId => (w.atOnce fun w => (w.requestId, w), w)
  | .hold _ => (w.atOnce fun w => ((), w), w)
  | .unhold => (w.atOnce fun w => ((), w), w)
  | .count metric =>
    (w.atOnce fun w => ((), { w with counted := metric :: w.counted }), w)
  | .log event => (w.atOnce fun w => ((), { w with events := event :: w.events }), w)
  | .note label => (w.atOnce fun w => ((), w.note label), w)

end World

end ClipFeed.Simulation
