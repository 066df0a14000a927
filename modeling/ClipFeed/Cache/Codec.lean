import ClipFeed.Payload.Shape
/-!
Codecs: how values of a type are kept as bytes. The usual one keeps the JSON of a shape.
-/

namespace ClipFeed.Cache

open Text

structure Codec (α : Type) where
  encode : α → Except String Bytes
  decode : Bytes → Except String α

namespace Codec

/-- Values kept as JSON text of a shape. -/
def ofShape {α : Type} (s : Payload.Shape) (toVal : α → s.Val) (ofVal : s.Val → α) : Codec α where
  encode a := (s.write (toVal a)).mapError Moment.WriteFault.message
  decode bs := match s.parse bs with
    | .ok v => .ok (ofVal v)
    | .error stop => .error (stop.message bs)

def json : Codec Json.Value where
  encode v := .ok v.print
  decode bs := (Json.Value.parse bs).mapError (·.message bs)

end Codec

end ClipFeed.Cache
