import ClipFeed.Moment.Basic
import ClipFeed.Text.Bytes
/-!
Moments as text after RFC 3339. Writing gives years 0 to 9999 and offsets of whole minutes below
a day; fractions have no zeros at their end. Reading takes any byte between date and time, drops
fraction digits beyond the ninth, and takes second 60 where a leap second may stand, as the last
nanosecond before it.
-/

namespace ClipFeed.Moment

open Text

inductive ParseFault where
  | literal
  | component (name : String)
  | outOfRange (name : String)
  | trailing
  deriving DecidableEq, Repr

def ParseFault.message : ParseFault → String
  | .literal => "a character literal was not valid"
  | .component name => "the '" ++ name ++ "' component could not be parsed"
  | .outOfRange name => name ++ " was not in range"
  | .trailing => "unexpected trailing characters; the end of input was expected"

/-- A part of a moment that has no written form. -/
inductive WriteFault where
  | year
  | offsetHour
  | offsetSecond
  deriving DecidableEq, Repr

def WriteFault.message (f : WriteFault) : String :=
  let name := match f with
    | .year => "year"
    | .offsetHour => "offset_hour"
    | .offsetSecond => "offset_second"
  "The " ++ name ++ " component cannot be formatted into the requested format."

def padded (width n : Nat) : List Char :=
  let ds := Nat.toDigits 10 n
  List.replicate (width - ds.length) '0' ++ ds

def withoutTrailingZeros (ds : List Char) : List Char :=
  (ds.reverse.dropWhile (· == '0')).reverse

def renderFraction (nanos : Nat) : List Char :=
  if nanos = 0 then [] else '.' :: withoutTrailingZeros (padded 9 nanos)

def renderOffset (offset : Int) : List Char :=
  if offset = 0 then ['Z']
  else
    let minutes := offset.natAbs / 60
    (if offset < 0 then '-' else '+') :: padded 2 (minutes / 60) ++ ':' :: padded 2 (minutes % 60)

def render (m : Moment) : Except WriteFault String :=
  let date := m.localDate
  let second := m.secondOfDay
  if date.year < 0 || 9999 < date.year then .error .year
  else if 23 < m.offset.natAbs / 3600 then .error .offsetHour
  else if m.offset.natAbs % 60 ≠ 0 then .error .offsetSecond
  else .ok <| String.ofList <|
    padded 4 date.year.toNat ++ '-' :: padded 2 date.month ++ '-' :: padded 2 date.day ++
      'T' :: padded 2 (second / 3600) ++ ':' :: padded 2 (second / 60 % 60) ++
      ':' :: padded 2 (second % 60) ++ renderFraction m.subsecond ++ renderOffset m.offset

def isDigit (b : UInt8) : Bool :=
  48 ≤ b && b ≤ 57

def number (ds : Bytes) : Nat :=
  ds.foldl (fun n d => n * 10 + (d.toNat - 48)) 0

def digits (count : Nat) (name : String) (bs : Bytes) : Except ParseFault (Nat × Bytes) :=
  let ds := bs.take count
  if ds.length = count && ds.all isDigit then .ok (number ds, bs.drop count)
  else .error (.component name)

def literal (b : UInt8) : Bytes → Except ParseFault Bytes
  | [] => .error .literal
  | c :: rest => if c = b then .ok rest else .error .literal

/-- Nanoseconds from an optional fraction. -/
def fraction : Bytes → Except ParseFault (Nat × Bytes)
  | 46 :: rest =>
    let ds := rest.takeWhile isDigit
    if ds.isEmpty then .error (.component "subsecond")
    else
      let kept := ds.take 9
      .ok (number kept * Nat.pow 10 (9 - kept.length), rest.dropWhile isDigit)
  | rest => .ok (0, rest)

def zone : Bytes → Except ParseFault (Int × Bytes)
  | [] => .error (.component "offset hour")
  | b :: rest =>
    if b = 90 || b = 122 then .ok (0, rest)
    else if b = 43 || b = 45 then do
      let (hour, rest) ← digits 2 "offset hour" rest
      if 23 < hour then throw (.component "offset hour")
      let rest ← literal 58 rest
      let (minute, rest) ← digits 2 "offset minute" rest
      if 59 < minute then throw (.outOfRange "offset minute")
      let seconds : Int := hour * 3600 + minute * 60
      return (if b = 45 then -seconds else seconds, rest)
    else .error (.component "offset hour")

def ofLocal (date : Calendar.Date) (second nanos : Nat) (offset : Int) : Moment :=
  ⟨(date.toDays * 86400 + second - offset) * nanosPerSecond + nanos, offset⟩

/-- Whether a moment is the last nanosecond of a month in UTC. -/
def endsMonth (m : Moment) : Bool :=
  let u := utc m.unixNanos
  let date := u.localDate
  u.secondOfDay = 86399 && u.subsecond = 999999999 &&
    date.day = Calendar.daysInMonth date.year date.month

def parseBytes (bs : Bytes) : Except ParseFault Moment := do
  let (year, bs) ← digits 4 "year" bs
  let bs ← literal 45 bs
  let (month, bs) ← digits 2 "month" bs
  let bs ← literal 45 bs
  let (day, bs) ← digits 2 "day" bs
  let bs ← match bs with
    | [] => .error (.component "separator")
    | _ :: rest => .ok rest
  let (hour, bs) ← digits 2 "hour" bs
  let bs ← literal 58 bs
  let (minute, bs) ← digits 2 "minute" bs
  let bs ← literal 58 bs
  let (second, bs) ← digits 2 "second" bs
  let (nanos, bs) ← fraction bs
  let (offset, bs) ← zone bs
  if !bs.isEmpty then throw .trailing
  let (second, nanos, leap) := if second = 60 then (59, 999999999, true) else (second, nanos, false)
  if month = 0 || 12 < month then throw (.outOfRange "month")
  if day = 0 || Calendar.daysInMonth year month < day then throw (.outOfRange "day")
  if 23 < hour then throw (.outOfRange "hour")
  if 59 < minute then throw (.outOfRange "minute")
  if 59 < second then throw (.outOfRange "second")
  let m := ofLocal ⟨year, month, day⟩ (hour * 3600 + minute * 60 + second) nanos offset
  if leap && !m.endsMonth then throw (.outOfRange "second")
  return m

def parse (s : String) : Except ParseFault Moment :=
  parseBytes (bytes s)

end ClipFeed.Moment
