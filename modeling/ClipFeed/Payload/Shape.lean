import ClipFeed.Json.Skip
import ClipFeed.Json.Value
import ClipFeed.Moment.Rfc3339
import ClipFeed.Text.Integer
/-!
Shapes of JSON payloads. One shape gives the type of the values, the JSON that is written for them
and the reader of it. Records are written as objects with their fields in order; they are also
read from objects in any order, with unknown members skipped, and from lists of the fields.
-/

namespace ClipFeed.Payload

open Text Json

mutual

inductive Shape where
  | int64
  | text
  | flag
  | moment
  | optional (s : Shape)
  | list (s : Shape)
  | record (name : String) (fields : Fields)

/-- The fields of a record. A lenient field may be missing at the end of a list. -/
inductive Fields where
  | none
  | field (name : String) (lenient : Bool) (s : Shape) (more : Fields)

end

mutual

@[reducible] def Shape.Val : Shape → Type
  | .int64 => Int64
  | .text => String
  | .flag => Bool
  | .moment => Moment
  | .optional s => Option s.Val
  | .list s => List s.Val
  | .record _ fields => fields.Val

@[reducible] def Fields.Val : Fields → Type
  | .none => Unit
  | .field _ _ s more => s.Val × more.Val

end

@[reducible] def Fields.Draft : Fields → Type
  | .none => Unit
  | .field _ _ s more => Option s.Val × more.Draft

def Fields.blank : (fields : Fields) → fields.Draft
  | .none => ()
  | .field _ _ _ more => (Option.none, more.blank)

def Fields.count : Fields → Nat
  | .none => 0
  | .field _ _ _ more => more.count + 1

def expectedRecord (name : String) : String :=
  "struct " ++ name

def expectedElements (name : String) (count : Nat) : String :=
  expectedRecord name ++ " with " ++ toString count ++
    (if count = 1 then " element" else " elements")

mutual

/-- The JSON of a value; a moment may have no written form. -/
def Shape.toJson : (s : Shape) → s.Val → Except Moment.WriteFault Value
  | .int64, n => .ok (.int64 n)
  | .text, t => .ok (.text t)
  | .flag, b => .ok (.flag b)
  | .moment, m => m.render.map .text
  | .optional _, .none => .ok .null
  | .optional s, some v => s.toJson v
  | .list s, vs => (vs.mapM s.toJson).map .list
  | .record _ fields, v => (fields.toMembers v).map .object

def Fields.toMembers :
    (fields : Fields) → fields.Val → Except Moment.WriteFault (List (String × Value))
  | .none, _ => .ok []
  | .field name _ s more, (v, vs) => do
    let head ← s.toJson v
    let tail ← more.toMembers vs
    return (name, head) :: tail

end

/-- The bytes of a value. -/
def Shape.write (s : Shape) (v : s.Val) : Except Moment.WriteFault Bytes :=
  (s.toJson v).map Value.print

/-- What stands for a value that is not given. -/
def Shape.absent? : (s : Shape) → Option s.Val
  | .optional _ => some Option.none
  | _ => Option.none

/-- A fault of a record as a whole, with the bytes behind the point where it was noticed, or one
that was placed inside the record. -/
inductive Halt where
  | placed (stop : Stop)
  | noticed (fault : Fault) (rest : Bytes)

def Fields.finish : (fields : Fields) → fields.Draft → Except Fault fields.Val
  | .none, _ => .ok ()
  | .field name _ s more, (v, vs) =>
    match v <|> s.absent? with
    | some v => (more.finish vs).map (v, ·)
    | Option.none => .error (.missingField name)

/-- Members up to the closing brace, which stays. Each one that names a field is read into the
draft. -/
def membersInto {δ : Type} (assign : String → δ → Option (Except Fault (Reader δ))) :
    (fuel : Nat) → (first : Bool) → δ → Bytes → Except Halt (δ × Bytes)
  | 0, _, _, bs => .error (.placed (stopOn .endInObject bs))
  | fuel + 1, first, draft, bs => do
    match ← (nextName first bs).mapError .placed with
    | Option.none => return (draft, skipSpace bs)
    | some bs =>
      let (name, rest) ← (string bs).mapError .placed
      match assign name draft with
      | Option.none =>
        let rest ← (within (.member name) (colon rest >>= ignored)).mapError .placed
        membersInto assign fuel false draft rest
      | some (.error fault) => throw (.noticed fault rest)
      | some (.ok read) =>
        let (draft, rest) ← (within (.member name) (colon rest >>= read)).mapError .placed
        membersInto assign fuel false draft rest

/-- Where a fault of an object as a whole is reported: behind its brace if that comes next. -/
def behindBrace (rest : Bytes) : Bytes :=
  match skipSpace rest with
  | 125 :: more => more
  | more => more

def readText (expected : String) (bs : Bytes) : Except Stop (String × Bytes) :=
  match skipSpace bs with
  | [] => .error (stopOn .endInValue [])
  | b :: rest => if b = 34 then string rest else .error (mismatch expected (b :: rest))

mutual

def Shape.read : (s : Shape) → Reader s.Val
  | .int64, bs =>
    match skipSpace bs with
    | [] => .error (stopOn .endInValue [])
    | b :: rest =>
      if b = 45 || isDigit b then do
        let (n, behind) ← if b = 45 then numeral true rest else numeral false (b :: rest)
        match n with
        | .integer i =>
          match int64? i with
          | some v => return (v, behind)
          | Option.none => throw (stopAt (.wrongValue (.integer i) "i64") behind)
        | .floating f => throw (stopAt (.wrongKind (.floating f) "i64") behind)
      else .error (mismatch "i64" (b :: rest))
  | .text, bs => readText "a string" bs
  | .flag, bs =>
    match skipSpace bs with
    | [] => .error (stopOn .endInValue [])
    | b :: rest =>
      if b = 116 then do return (true, ← word [114, 117, 101] rest)
      else if b = 102 then do return (false, ← word [97, 108, 115, 101] rest)
      else .error (mismatch "a boolean" (b :: rest))
  | .moment, bs => do
    let (s, rest) ← readText "an RFC3339-formatted `OffsetDateTime`" bs
    match Moment.parse s with
    | .ok m => return (m, rest)
    | .error f => throw (stopAt (.refused f.message) rest)
  | .optional s, bs =>
    match skipSpace bs with
    | 110 :: rest => do return (Option.none, ← word [117, 108, 108] rest)
    | bs => do
      let (v, rest) ← s.read bs
      return (some v, rest)
  | .list s, bs =>
    match skipSpace bs with
    | [] => .error (stopOn .endInValue [])
    | b :: rest =>
      if b = 91 then elements s.read (rest.length + 1) 0 rest
      else .error (mismatch "a sequence" (b :: rest))
  | .record name fields, bs =>
    match skipSpace bs with
    | [] => .error (stopOn .endInValue [])
    | b :: rest =>
      if b = 91 then
        match fields.readList name fields.count 0 rest with
        | .error (.placed stop) => .error stop
        | .error (.noticed fault rest) => .error (stopAt fault ((skipSpace rest).drop 1))
        | .ok (v, rest) => do return (v, ← endList rest)
      else if b = 123 then
        match membersInto fields.assign (rest.length + 1) true fields.blank rest with
        | .error (.placed stop) => .error stop
        | .error (.noticed fault rest) => .error (stopAt fault (behindBrace rest))
        | .ok (draft, rest) =>
          match fields.finish draft with
          | .ok v => .ok (v, behindBrace rest)
          | .error fault => .error (stopAt fault (behindBrace rest))
      else .error (mismatch (expectedRecord name) (b :: rest))

/-- The fields of a record in order from the elements of a list. -/
def Fields.readList (record : String) (total : Nat) : (fields : Fields) → (position : Nat) →
    Bytes → Except Halt (fields.Val × Bytes)
  | .none, _, bs => .ok ((), bs)
  | .field _ lenient s more, position, bs => do
    match ← (within (.element position) (nextElement (position = 0) bs)).mapError .placed with
    | some bs =>
      let (v, rest) ← (within (.element position) (s.read bs)).mapError .placed
      let (vs, rest) ← more.readList record total (position + 1) rest
      return ((v, vs), rest)
    | Option.none =>
      match if lenient then s.absent? else Option.none with
      | some v =>
        let (vs, rest) ← more.readList record total (position + 1) bs
        return ((v, vs), rest)
      | Option.none => throw (.noticed (.wrongLength position (expectedElements record total)) bs)

/-- The reader of the field with a name, if there is one; a field may be given once. -/
def Fields.assign : (fields : Fields) → String → fields.Draft →
    Option (Except Fault (Reader fields.Draft))
  | .none, _, _ => Option.none
  | .field name _ s more, key, (v, vs) =>
    if key = name then
      match v with
      | some _ => some (.error (.duplicateField name))
      | Option.none => some (.ok fun bs => do
        let (v, rest) ← s.read bs
        return ((some v, vs), rest))
    else
      (more.assign key vs).map fun r => r.map fun read bs => do
        let (vs, rest) ← read bs
        return ((v, vs), rest)

end

def Shape.parse (s : Shape) (input : Bytes) : Except Stop s.Val :=
  whole s.read input

end ClipFeed.Payload
