import ClipFeed.Http.MediaType
import ClipFeed.Http.Reply
import ClipFeed.Payload.Shape
import ClipFeed.Video.Submission
/-!
The body of a publication: JSON under a header that announces it. A body that is not JSON and one
that has the wrong shape are refused with different statuses.
-/

namespace ClipFeed.Http

open Payload

namespace SubmissionBody

def shape : Shape :=
  .record "PublishVideoRequest" <|
    .field "title" false .text <| .field "description" false (.optional .text) <|
    .field "play_url" false .text <| .field "cover_url" false .text .none

def toSubmission (author : Int64) : shape.Val → Submission
  | (title, description, playUrl, coverUrl, ()) => ⟨author, title, description, playUrl, coverUrl⟩

def rejected (stop : Json.Stop) (body : Text.Bytes) : Reply :=
  if stop.fault.ofData then
    .plain 422 ("Failed to deserialize the JSON body into the target type: " ++ stop.located body)
  else .plain 400 ("Failed to parse the request body as JSON: " ++ stop.located body)

def read (author : Int64) (r : Request) : Except Reply Submission :=
  if (r.header? "content-type").any MediaType.isJson then
    match shape.parse r.body with
    | .ok v => .ok (toSubmission author v)
    | .error stop => .error (rejected stop r.body)
  else .error (.plain 415 "Expected request with `Content-Type: application/json`")

end SubmissionBody

end ClipFeed.Http
