import ClipFeed.Sql.Row
import ClipFeed.Store.Call
/-!
The store over a database. Reads and single changes are one statement each. A like or an unlike
changes two tables in one transaction, which is committed only when every statement succeeded and
rolled back in every other case.
-/

namespace ClipFeed.Sql

open Feed (LatestCursor PopularCursor PageRequest)

namespace Query

def ofText (text : String) : Query := ⟨text, []⟩

def selectVideos : Query :=
  ofText ("SELECT " ++ videoColumns ++ " FROM videos v WHERE 1=1 ")

def behindLatest (q : Query) : Option LatestCursor → Query
  | none => q
  | some ⟨before, some id⟩ =>
    (((q.literal " AND (v.created_at, v.id) < (").bind (.moment before)).literal ", ").bind
      (.integer id) |>.literal ")"
  | some ⟨before, none⟩ => (q.literal " AND v.created_at < ").bind (.moment before)

def behindPopular (q : Query) : Option PopularCursor → Query
  | none => q
  | some c =>
    (((q.literal " AND (v.likes_count, v.id) < (").bind (.integer c.likesCount)).literal ", ").bind
      (.integer c.id) |>.literal ")"

def limit (q : Query) (n : UInt32) : Query :=
  (q.literal " LIMIT ").bind (.integer (Int64.ofNat n.toNat))

def newestFirst (q : Query) : Query := q.literal " ORDER BY v.created_at DESC, v.id DESC"

def mostLikedFirst (q : Query) : Query := q.literal " ORDER BY v.likes_count DESC, v.id DESC"

def latest (page : PageRequest LatestCursor) : Query :=
  (selectVideos.behindLatest page.cursor).newestFirst.limit page.limit

def popular (page : PageRequest PopularCursor) : Query :=
  (selectVideos.behindPopular page.cursor).mostLikedFirst.limit page.limit

def following (follower : Int64) (page : PageRequest LatestCursor) : Query :=
  let followed :=
    ((selectVideos.literal
      " AND v.author_id IN (SELECT f.vlogger_id FROM follows f WHERE f.follower_id = ").bind
        (.integer follower)).literal ")"
  (followed.behindLatest page.cursor).newestFirst.limit page.limit

def likedAmong (account : Int64) (videos : List Int64) : Query :=
  ⟨"SELECT video_id FROM likes WHERE account_id = $1 AND video_id = ANY($2)",
    [.integer account, .integers videos]⟩

def find (id : Int64) : Query :=
  ⟨"SELECT " ++ videoColumns ++ " FROM videos v WHERE v.id = $1", [.integer id]⟩

def create (s : Submission) : Query :=
  ⟨"INSERT INTO videos AS v (author_id, username, title, description, play_url, cover_url) " ++
      "SELECT a.id, a.username, $2, $3, $4, $5 FROM accounts a WHERE a.id = $1 RETURNING " ++
      videoColumns,
    [.integer s.authorId, .text s.title, .optional s.description, .text s.playUrl,
      .text s.coverUrl]⟩

def delete (id : Int64) : Query :=
  ⟨"DELETE FROM videos WHERE id = $1", [.integer id]⟩

def lock (id : Int64) : Query :=
  ⟨"SELECT id FROM videos WHERE id = $1 FOR UPDATE", [.integer id]⟩

def insertLike (id account : Int64) : Query :=
  ⟨"INSERT INTO likes (video_id, account_id) VALUES ($1, $2)", [.integer id, .integer account]⟩

def countLike (id : Int64) : Query :=
  ⟨"UPDATE videos SET likes_count = likes_count + 1, popularity = popularity + 1 WHERE id = $1",
    [.integer id]⟩

def deleteLike (id account : Int64) : Query :=
  ⟨"DELETE FROM likes WHERE video_id = $1 AND account_id = $2", [.integer id, .integer account]⟩

def uncountLike (id : Int64) : Query :=
  ⟨"UPDATE videos SET likes_count = GREATEST(likes_count - 1, 0), " ++
      "popularity = GREATEST(popularity - 1, 0) WHERE id = $1", [.integer id]⟩

def probe : Query := ofText "SELECT 1"

end Query

namespace Session

/-- All rows of a query, or the first that cannot be read. -/
def all {α : Type} (q : Query) (read : List Cell → Except Failure α) :
    Session (Except Store.Fault (List α)) := do
  return ((← run q).bind fun o => o.rows.mapM read).mapError Failure.toStore

def first? {α : Type} (q : Query) (read : List Cell → Except Failure α) :
    Session (Except Store.Fault (Option α)) := do
  return ((← run q).bind fun o => o.rows.head?.mapM read).mapError Failure.toStore

/-- A change that has to affect at least one row. -/
def change (q : Query) : Session (Except Store.Fault Unit) := do
  match ← run q with
  | .ok o => return if o.affected = 0 then .error .notFound else .ok ()
  | .error failure => return .error failure.toStore

/-- A change that may affect no row. -/
def touch (q : Query) : Session (Except Store.Fault Unit) := do
  return ((← run q).map fun _ => ()).mapError Failure.toStore

def andThen (a b : Session (Except Store.Fault Unit)) : Session (Except Store.Fault Unit) := do
  match ← a with
  | .ok () => b
  | .error fault => return .error fault

/-- The fault of a transaction that was not committed, which is rolled back. -/
def undo (fault : Store.Fault) : Session (Except Store.Fault Unit) := do
  let _ ← send .rollback
  return .error fault

/-- Runs a body between `BEGIN` and `COMMIT`. -/
def transaction (body : Session (Except Store.Fault Unit)) :
    Session (Except Store.Fault Unit) := do
  match ← send .begin with
  | .error failure => return .error failure.toStore
  | .ok _ =>
    match ← body with
    | .error fault => undo fault
    | .ok () =>
      match ← send .commit with
      | .ok _ => return .ok ()
      | .error failure => undo failure.toStore

def lockVideo (id : Int64) : Session (Except Store.Fault Unit) := do
  match ← first? (Query.lock id) Row.integer with
  | .ok (some _) => return .ok ()
  | .ok none => return .error .notFound
  | .error fault => return .error fault

def like (id account : Int64) : Session (Except Store.Fault Unit) :=
  transaction <|
    (lockVideo id).andThen <| (touch (Query.insertLike id account)).andThen <|
      touch (Query.countLike id)

def unlike (id account : Int64) : Session (Except Store.Fault Unit) :=
  transaction <|
    (change (Query.deleteLike id account)).andThen <| touch (Query.uncountLike id)

/-- A submitted video, unless its author has no account. -/
def create (s : Submission) : Session (Except Store.Fault Video) := do
  match ← first? (Query.create s) Row.video with
  | .ok (some v) => return .ok v
  | .ok none => return .error .notFound
  | .error fault => return .error fault

/-- Nothing is asked about no videos. -/
def likedAmong (account : Int64) (videos : List Int64) :
    Session (Except Store.Fault (List Int64)) :=
  if videos.isEmpty then return .ok [] else all (Query.likedAmong account videos) Row.integer

def perform : (call : Store.Call) → Session (Except Store.Fault call.Answer)
  | .listLatest page => all (Query.latest page) Row.video
  | .listPopular page => all (Query.popular page) Row.video
  | .listFollowing follower page => all (Query.following follower page) Row.video
  | .likedAmong account videos => likedAmong account videos
  | .find id => first? (Query.find id) Row.video
  | .create submission => create submission
  | .delete id => change (Query.delete id)
  | .like id account => like id account
  | .unlike id account => unlike id account

def probe : Session (Except Failure Unit) :=
  return (← run Query.probe).map fun _ => ()

end Session

end ClipFeed.Sql
