import ClipFeed.Payload.Shape
import ClipFeed.Text.Base64Url
import ClipFeed.Text.Blank
/-!
Positions in a feed and the opaque tokens that name them. A token is URL-safe base64 of a JSON
payload; reading it back checks the position, and the sentinel at zero means the start of the
feed.
-/

namespace ClipFeed.Feed

open Payload Text

/-- Why a token names no position. -/
inductive CursorFault where
  | malformed (reason : String)
  | missingPair
  | negativeSortValue
  | zeroIdentifier
  | negativeIdentifier
  deriving DecidableEq, Repr

def CursorFault.message : CursorFault → String
  | .malformed reason => "invalid cursor: " ++ reason
  | .missingPair => "cursor sort value and identifier must be provided together"
  | .negativeSortValue => "cursor sort value must not be negative"
  | .zeroIdentifier => "cursor identifier must be positive unless the sort value is zero"
  | .negativeIdentifier => "cursor identifier must not be negative"

/-- The token of a payload. Integers always have a written form. -/
def encodePayload (s : Shape) (v : s.Val) : String :=
  match s.write v with
  | .ok bs => Base64Url.encode bs
  | .error _ => ""

/-- The payload of a token, trimmed before it is read. -/
def decodePayload (s : Shape) (token : String) : Except CursorFault s.Val :=
  match Base64Url.decode (trim token) with
  | .error f => .error (.malformed f.message)
  | .ok bs => match s.parse bs with
    | .error stop => .error (.malformed (stop.message bs))
    | .ok v => .ok v

/-- A position in a feed ordered by creation time, newest first, then by identifier, highest
first. Without an identifier it lies before every row of its time. -/
structure LatestCursor where
  before : Moment
  id : Option Int64
  deriving DecidableEq, Repr

namespace LatestCursor

def fields : Fields :=
  .field "before" false .moment <| .field "id" false (.optional .int64) .none

def shape : Shape :=
  .record "LatestCursor" fields

def toVal (c : LatestCursor) : shape.Val :=
  (c.before, c.id, ())

def ofVal : shape.Val → LatestCursor
  | (before, id, ()) => ⟨before, id⟩

def afterRow (createdAt : Moment) (id : Int64) : LatestCursor :=
  ⟨createdAt, some id⟩

def beforeMicros (c : LatestCursor) : Int64 :=
  c.before.unixMicros

def payload : Shape :=
  .record "LatestCursorPayload" <|
    .field "before_us" false .int64 <| .field "id" true (.optional .int64) .none

def encode (c : LatestCursor) : String :=
  encodePayload payload (c.beforeMicros, c.id, ())

/-- The position of a payload. Zero without a row is the start of the feed. -/
def ofPayload? (micros : Int64) (id : Option Int64) : Except CursorFault (Option LatestCursor) := do
  match id with
  | some id =>
    if id < 0 then throw .negativeIdentifier
    if id = 0 then
      if micros = 0 then return none else throw .zeroIdentifier
  | none =>
    if micros = 0 then return none
    if micros < 0 then throw .negativeSortValue
  match Moment.ofMicros? micros.toInt with
  | some before => return some ⟨before, id⟩
  | none => throw (.malformed "timestamp was not in range")

def decode (token : String) : Except CursorFault (Option LatestCursor) := do
  let (micros, id, ()) ← decodePayload payload token
  ofPayload? micros id

end LatestCursor

/-- A position in a feed ordered by likes, most first, then by identifier, highest first. -/
structure PopularCursor where
  likesCount : Int64
  id : Int64
  deriving DecidableEq, Repr

namespace PopularCursor

def fields : Fields :=
  .field "likes_count" false .int64 <| .field "id" false .int64 .none

def shape : Shape :=
  .record "PopularityCursor" fields

def toVal (c : PopularCursor) : shape.Val :=
  (c.likesCount, c.id, ())

def ofVal : shape.Val → PopularCursor
  | (likesCount, id, ()) => ⟨likesCount, id⟩

def afterRow (likesCount id : Int64) : PopularCursor :=
  ⟨likesCount, id⟩

def payload : Shape :=
  .record "PopularityCursorPayload" <|
    .field "likes_count" true (.optional .int64) <| .field "id" true (.optional .int64) .none

def encode (c : PopularCursor) : String :=
  encodePayload payload (some c.likesCount, some c.id, ())

/-- The position of a pair. Nothing at all and the pair of zeros are the start of the feed. -/
def ofParts? : Option Int64 → Option Int64 → Except CursorFault (Option PopularCursor)
  | none, none => .ok none
  | some likes, some id =>
    if likes < 0 then .error .negativeSortValue
    else if id < 0 then .error .negativeIdentifier
    else if id = 0 then
      if likes = 0 then .ok none else .error .zeroIdentifier
    else .ok (some ⟨likes, id⟩)
  | _, _ => .error .missingPair

def decode (token : String) : Except CursorFault (Option PopularCursor) := do
  let (likes, id, ()) ← decodePayload payload token
  ofParts? likes id

end PopularCursor

end ClipFeed.Feed
