import ClipFeed.Http.Request
/-!
Media types: a type and a subtype with an optional suffix behind a plus, followed by parameters.
-/

namespace ClipFeed.Http

open Text

namespace MediaType

def isAlphanumeric (b : UInt8) : Bool :=
  (48 ≤ b && b ≤ 57) || (65 ≤ b && b ≤ 90) || (97 ≤ b && b ≤ 122)

/-- The bytes of names: alphanumerics and some signs, but no asterisk. -/
def isToken (b : UInt8) : Bool :=
  isAlphanumeric b || (bytes "!#$%&'+-.^_`|~").contains b

def isQuotable (b : UInt8) : Bool :=
  31 < b && b != 127

/-- Where a reader of parameters stands. -/
inductive Position where
  | beforeName
  | inName
  | beforeValue
  | inValue
  | behindQuote
  | inQuotes
  | behindQuotes
  deriving DecidableEq, Repr

def areParameters : Position → Bytes → Bool
  | .inName, [] | .behindQuote, [] | .inQuotes, [] => false
  | _, [] => true
  | .beforeName, b :: rest =>
    if b = 32 then areParameters .beforeName rest else isToken b && areParameters .inName rest
  | .inName, b :: rest =>
    if b = 61 then areParameters .beforeValue rest else isToken b && areParameters .inName rest
  | .beforeValue, b :: rest =>
    if b = 34 then areParameters .behindQuote rest else isToken b && areParameters .inValue rest
  | .inValue, b :: rest =>
    if b = 59 then areParameters .beforeName rest else isToken b && areParameters .inValue rest
  | .behindQuote, b :: rest => isQuotable b && areParameters .inQuotes rest
  | .inQuotes, b :: rest =>
    if b = 34 then areParameters .behindQuotes rest
    else isQuotable b && areParameters .inQuotes rest
  | .behindQuotes, b :: rest =>
    if b = 59 then areParameters .beforeName rest
    else b == 32 && areParameters .behindQuotes rest

/-- The type and the full subtype, in lower case, if the bytes are a media type. -/
def read? (bs : Bytes) : Option (String × String) :=
  let top := bs.takeWhile isToken
  match bs.dropWhile isToken with
  | 47 :: behind =>
    let sub := behind.takeWhile isToken
    let tail := behind.dropWhile isToken
    let isWhole := match tail with
      | [] => true
      | b :: rest => !sub.isEmpty && (b == 59 || b == 32) && areParameters .beforeName rest
    if top.isEmpty || !isWhole then none
    else some ((ofBytesLossy top).toLower, (ofBytesLossy sub).toLower)
  | _ => none

/-- A subtype split at its last plus that is not at its front. -/
def splitSuffix (sub : String) : String × Option String :=
  let cs := sub.toList
  let suffix := (cs.reverse.takeWhile (· != '+')).reverse
  let base := cs.take (cs.length - suffix.length - 1)
  if base.isEmpty then (sub, none) else (String.ofList base, some (String.ofList suffix))

/-- Whether a header announces JSON, by its subtype or by its suffix. -/
def isJson (header : Bytes) : Bool :=
  header.all isPlain && match read? header with
    | some (top, sub) =>
      let (base, suffix) := splitSuffix sub
      top == "application" && (base == "json" || suffix == some "json")
    | none => false

end MediaType

end ClipFeed.Http
