import ClipFeed.Moment.Calendar
/-!
Moments: an instant in nanoseconds since 1970-01-01T00:00:00Z together with the offset from UTC,
in seconds east, at which it is written. Two moments with one instant may differ in offset.
-/

namespace ClipFeed

structure Moment where
  unixNanos : Int
  offset : Int
  deriving DecidableEq, Repr

namespace Moment

def nanosPerSecond : Int := 1000000000

def utc (unixNanos : Int) : Moment :=
  ⟨unixNanos, 0⟩

/-- Whole seconds since the epoch, rounded down. -/
def unixSeconds (m : Moment) : Int :=
  m.unixNanos / nanosPerSecond

/-- Whole microseconds since the epoch, rounded towards it, within 64 bits. -/
def unixMicros (m : Moment) : Int64 :=
  let micros := m.unixNanos.tdiv 1000
  if micros < Int64.minValue.toInt then Int64.minValue
  else if Int64.maxValue.toInt < micros then Int64.maxValue
  else Int64.ofInt micros

/-- The first and last instant of the years -9999 to 9999 in UTC. -/
def firstNanos : Int := -377705116800 * nanosPerSecond
def lastNanos : Int := 253402300800 * nanosPerSecond - 1

/-- The instant so many microseconds after the epoch, if its year is at most 9999 before or after
year zero. -/
def ofMicros? (micros : Int) : Option Moment :=
  let nanos := micros * 1000
  if firstNanos ≤ nanos ∧ nanos ≤ lastNanos then some (utc nanos) else none

def localSeconds (m : Moment) : Int :=
  m.unixSeconds + m.offset

def subsecond (m : Moment) : Nat :=
  (m.unixNanos % nanosPerSecond).toNat

def localDate (m : Moment) : Calendar.Date :=
  .ofDays (m.localSeconds / 86400)

def secondOfDay (m : Moment) : Nat :=
  (m.localSeconds % 86400).toNat

end Moment

end ClipFeed
