/-!
Spans of time in whole microseconds. Clocks and times to live are spans and have no bound: what is
said of them is said of time that never ends. On a machine it does: instants end near `2 ^ 63`
seconds, where adding a time to live fails, and a server of keys refuses expiries above
`2 ^ 63 - 1` milliseconds.
-/

namespace ClipFeed

abbrev Span := Nat

namespace Span

def micros (n : Nat) : Span := n
def millis (n : Nat) : Span := n * 1000
def seconds (n : Nat) : Span := n * 1000000

def toMillis (s : Span) : Nat := s / 1000

/-- A fraction of a thousandth or a millionth, without zeros at its end. -/
def fractionText (width n : Nat) : String :=
  let ds := Nat.toDigits 10 n
  let padded := List.replicate (width - ds.length) '0' ++ ds
  let kept := (padded.reverse.dropWhile (· == '0')).reverse
  if kept.isEmpty then "" else "." ++ String.ofList kept

/-- The span in its largest unit that is not above it. -/
def render (s : Span) : String :=
  if 1000000 ≤ s then toString (s / 1000000) ++ fractionText 6 (s % 1000000) ++ "s"
  else if 1000 ≤ s then toString (s / 1000) ++ fractionText 3 (s % 1000) ++ "ms"
  else if s = 0 then "0ns"
  else toString s ++ "µs"

end Span

end ClipFeed
