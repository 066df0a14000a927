import ClipFeed.Store.Call
/-!
A store inside the process: videos, who likes what and who follows whom. Scans select the rows
strictly behind the cursor, order them and cut at the limit.
-/

namespace ClipFeed.Store

open Feed

structure Memory where
  videos : List Video
  /-- Pairs of a video and an account, in order. -/
  likes : List (Int64 × Int64)
  /-- Pairs of a follower and an author, in order. -/
  follows : List (Int64 × Int64)
  deriving DecidableEq, Repr

def newestFirst (v w : Video) : Bool :=
  w.createdAt.unixNanos < v.createdAt.unixNanos ||
    (v.createdAt.unixNanos == w.createdAt.unixNanos && w.id ≤ v.id)

def mostLikedFirst (v w : Video) : Bool :=
  w.likesCount < v.likesCount || (v.likesCount == w.likesCount && w.id ≤ v.id)

/-- Whether a video lies strictly behind a position among the newest. -/
def behindLatest (cursor : Option LatestCursor) (v : Video) : Bool :=
  match cursor with
  | none => true
  | some c =>
    v.createdAt.unixNanos < c.before.unixNanos ||
      (v.createdAt.unixNanos == c.before.unixNanos && c.id.any (v.id < ·))

def behindPopular (cursor : Option PopularCursor) (v : Video) : Bool :=
  match cursor with
  | none => true
  | some c => v.likesCount < c.likesCount || (v.likesCount == c.likesCount && v.id < c.id)

def pairLess (p q : Int64 × Int64) : Bool :=
  p.1 < q.1 || (p.1 == q.1 && p.2 < q.2)

/-- Pairs with one more, in order and without repetition. -/
def insertPair (p : Int64 × Int64) : List (Int64 × Int64) → List (Int64 × Int64)
  | [] => [p]
  | q :: more =>
    if p = q then q :: more
    else if pairLess p q then p :: q :: more
    else q :: insertPair p more

namespace Memory

def empty : Memory := ⟨[], [], []⟩

def scanLatest (m : Memory) (page : PageRequest LatestCursor) (selected : Video → Bool) :
    List Video :=
  ((m.videos.filter fun v => selected v && behindLatest page.cursor v).mergeSort newestFirst).take
    page.limit.toNat

def scanPopular (m : Memory) (page : PageRequest PopularCursor) : List Video :=
  ((m.videos.filter (behindPopular page.cursor)).mergeSort mostLikedFirst).take page.limit.toNat

def isFollowed (m : Memory) (follower author : Int64) : Bool :=
  m.follows.contains (follower, author)

def likedAmong (m : Memory) (account : Int64) (videos : List Int64) : List Int64 :=
  videos.filter fun id => m.likes.contains (id, account)

def find (m : Memory) (id : Int64) : Option Video :=
  m.videos.find? (·.id == id)

def highestId (m : Memory) : Int64 :=
  match m.videos.map (·.id) with
  | [] => 0
  | id :: ids => ids.foldl max id

/-- The creation time of a video that comes without one: one minute for each number. -/
def createdAt (id : Int64) : Moment :=
  .utc ((1714564800 + 60 * id.toInt) * Moment.nanosPerSecond)

def nameOf (author : Int64) : String :=
  "user" ++ toString author

/-- The first video with this identifier, changed. -/
def adjust (change : Video → Video) (id : Int64) : List Video → List Video
  | [] => []
  | v :: vs => if v.id == id then change v :: vs else v :: adjust change id vs

def create (m : Memory) (s : Submission) : Video × Memory :=
  let id := if m.videos.isEmpty then 1 else m.highestId + 1
  let v : Video :=
    ⟨id, s.authorId, nameOf s.authorId, s.title, s.description, s.playUrl, s.coverUrl, 0, 0,
      createdAt id⟩
  (v, { m with videos := m.videos ++ [v] })

def delete (m : Memory) (id : Int64) : Except Fault Unit × Memory :=
  if (m.find id).isSome then
    (.ok (), { m with
      videos := m.videos.filter (·.id != id), likes := m.likes.filter (·.1 != id) })
  else (.error .notFound, m)

def like (m : Memory) (id account : Int64) : Except Fault Unit × Memory :=
  if (m.find id).isNone then (.error .notFound, m)
  else if m.likes.contains (id, account) then (.error (.duplicate "likes_video_account_key"), m)
  else
    let more (v : Video) :=
      { v with likesCount := v.likesCount + 1, popularity := v.popularity + 1 }
    (.ok (), { m with
      videos := adjust more id m.videos, likes := insertPair (id, account) m.likes })

def lessOne (n : Int64) : Int64 :=
  max (n - 1) 0

def unlike (m : Memory) (id account : Int64) : Except Fault Unit × Memory :=
  if m.likes.contains (id, account) then
    let less (v : Video) :=
      { v with likesCount := lessOne v.likesCount, popularity := lessOne v.popularity }
    (.ok (), { m with
      videos := adjust less id m.videos, likes := m.likes.filter (· != (id, account)) })
  else (.error .notFound, m)

/-- A video put in place of the first with its identifier, or behind all others. -/
def put (m : Memory) (v : Video) : Memory :=
  if (m.find v.id).isSome then { m with videos := adjust (fun _ => v) v.id m.videos }
  else { m with videos := m.videos ++ [v] }

/-- The answer to a call and the store behind it. -/
def perform (m : Memory) : (call : Call) → Except Fault call.Answer × Memory
  | .listLatest page => (.ok (m.scanLatest page fun _ => true), m)
  | .listPopular page => (.ok (m.scanPopular page), m)
  | .listFollowing follower page =>
    (.ok (m.scanLatest page fun v => m.isFollowed follower v.authorId), m)
  | .likedAmong account videos => (.ok (m.likedAmong account videos), m)
  | .find id => (.ok (m.find id), m)
  | .create submission => let (v, m) := m.create submission; (.ok v, m)
  | .delete id => m.delete id
  | .like id account => m.like id account
  | .unlike id account => m.unlike id account

end Memory

end ClipFeed.Store
