import ClipFeed.Text.Form
import ClipFeed.Text.Integer
/-!
Routes: what a path names and the methods it offers. A video is named by one segment that is not
empty; the segment is decoded only when the video is asked for.
-/

namespace ClipFeed.Http

open Text

inductive Route where
  | latest
  | popular
  | following
  | videos
  | video (segment : String)
  | like (segment : String)
  | health
  deriving DecidableEq, Repr

namespace Route

def ofPath? (path : String) : Option Route :=
  match path.splitOn "/" with
  | ["", "feed", "latest"] => some .latest
  | ["", "feed", "popular"] => some .popular
  | ["", "feed", "following"] => some .following
  | ["", "videos"] => some .videos
  | ["", "videos", segment] => if segment.isEmpty then none else some (.video segment)
  | ["", "videos", segment, "like"] => if segment.isEmpty then none else some (.like segment)
  | ["", "_health", "db"] => some .health
  | _ => none

def methods : Route → List String
  | .latest | .popular | .following | .health => ["GET", "HEAD"]
  | .videos => ["POST"]
  | .video _ => ["GET", "HEAD", "DELETE"]
  | .like _ => ["POST", "DELETE"]

def videoId (segment : String) : Except String Int64 :=
  match ofBytes? (percentDecode (bytes segment)) with
  | none => .error "Invalid URL: Invalid UTF-8 in `id`"
  | some s =>
    match parseInt64? s with
    | some id => .ok id
    | none => .error ("Invalid URL: Cannot parse `" ++ s ++ "` to a `i64`")

end Route

def surface (path : String) : String :=
  if path.startsWith "/feed/" then "feed"
  else if path.startsWith "/videos" then "video"
  else if path.startsWith "/_health" then "health"
  else "other"

end ClipFeed.Http
