import ClipFeed.Sql.Statement
import ClipFeed.Video.Record
/-!
Rows as values. A cell that is null where a value is needed is a failure that names its column; the
first such column of a row counts.
-/

namespace ClipFeed.Sql

def unexpectedNull : String :=
  "unexpected null; try decoding as an `Option`"

def mismatched : String :=
  "mismatched types"

namespace Cell

def integer? (column : String) : Cell → Except Failure Int64
  | .integer n => .ok n
  | .null => .error (.columnDecode column unexpectedNull)
  | _ => .error (.columnDecode column mismatched)

def text? (column : String) : Cell → Except Failure String
  | .text s => .ok s
  | .null => .error (.columnDecode column unexpectedNull)
  | _ => .error (.columnDecode column mismatched)

def optionalText? (column : String) : Cell → Except Failure (Option String)
  | .null => .ok none
  | c => (c.text? column).map some

def moment? (column : String) : Cell → Except Failure Moment
  | .timestamp micros => .ok (.utc (micros * 1000))
  | .null => .error (.columnDecode column unexpectedNull)
  | _ => .error (.columnDecode column mismatched)

end Cell

def videoColumns : String :=
  "v.id, v.author_id, v.username, v.title, v.description, v.play_url, v.cover_url, " ++
    "v.likes_count, v.popularity, v.created_at"

/-- The video of a row. Columns are named in quotes. -/
def Row.video : List Cell → Except Failure Video
  | [id, author, username, title, description, play, cover, likes, popularity, created] => do
    return {
      id := ← id.integer? "\"id\"", authorId := ← author.integer? "\"author_id\""
      username := ← username.text? "\"username\"", title := ← title.text? "\"title\""
      description := ← description.optionalText? "\"description\""
      playUrl := ← play.text? "\"play_url\"", coverUrl := ← cover.text? "\"cover_url\""
      likesCount := ← likes.integer? "\"likes_count\""
      popularity := ← popularity.integer? "\"popularity\""
      createdAt := ← created.moment? "\"created_at\"" }
  | _ => .error (.columnNotFound "id")

/-- The number in a row of one column, which is named by its position. -/
def Row.integer : List Cell → Except Failure Int64
  | cell :: _ => cell.integer? "0"
  | [] => .error (.columnNotFound "0")

end ClipFeed.Sql
