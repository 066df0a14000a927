/-!
The shortest decimal form of a floating-point number: the fewest digits that read back as the
same number, and of several such the nearest to it. The number is taken apart into
`mantissa * 2 ^ exponent` and the search runs in whole numbers.
-/

namespace ClipFeed.Number

/-- A positive floating-point number in parts. `narrow` says that the next number below is only
half as far away as the next above. -/
structure Parts where
  mantissa : Nat
  exponent : Int
  narrow : Bool
  deriving Repr

/-- Decimal digits and the power of ten of the last one. -/
structure Digits where
  digits : Nat
  power : Int
  deriving Repr, DecidableEq

def Parts.ofBits (bits : Nat) : Parts :=
  let fraction : Nat := bits % Nat.pow 2 52
  let biased : Nat := bits / Nat.pow 2 52 % Nat.pow 2 11
  if biased = 0 then ⟨fraction, -1074, false⟩
  else ⟨Nat.pow 2 52 + fraction, (biased : Int) - 1075, fraction = 0 && biased > 1⟩

/-- `10 ^ power` as a numerator and a denominator. -/
def powerOfTen (power : Int) : Nat × Nat :=
  if power < 0 then (1, Nat.pow 10 power.natAbs) else (Nat.pow 10 power.natAbs, 1)

/-- Four times the number over a common denominator, so that its neighbours' midpoints are
whole. -/
def Parts.quarters (p : Parts) : Nat × Nat :=
  if p.exponent < 0 then (4 * p.mantissa, 4 * Nat.pow 2 p.exponent.natAbs)
  else (4 * p.mantissa * Nat.pow 2 p.exponent.natAbs, 4)

def Parts.unit (p : Parts) : Nat :=
  if p.exponent < 0 then 1 else Nat.pow 2 p.exponent.natAbs

/-- Whether `digits * 10 ^ power` reads back as the number. -/
def Parts.readsBack (p : Parts) (d : Digits) : Bool :=
  let (value, den) := p.quarters
  let (num, scale) := powerOfTen d.power
  let low := value - p.unit * (if p.narrow then 1 else 2)
  let high := value + p.unit * 2
  let candidate := d.digits * num * den
  let even := p.mantissa % 2 = 0
  if even then low * scale ≤ candidate && candidate ≤ high * scale
  else low * scale < candidate && candidate < high * scale

/-- The two neighbours of the number on the grid of a power of ten, the nearer one first. -/
def Parts.neighbours (p : Parts) (power : Int) : Digits × Digits :=
  let (value, den) := p.quarters
  let (num, scale) := powerOfTen power
  let step := num * den
  let below := value * scale / step
  let left := value * scale % step
  let lowFirst := 2 * left < step || (2 * left = step && below % 2 = 0)
  if lowFirst then (⟨below, power⟩, ⟨below + 1, power⟩) else (⟨below + 1, power⟩, ⟨below, power⟩)

/-- The coarsest grid with a hit, going from `power` down. -/
def Parts.search (p : Parts) : (tries : Nat) → (power : Int) → Digits
  | 0, power => (p.neighbours power).1
  | tries + 1, power =>
    let (near, far) := p.neighbours power
    if 0 < near.digits && p.readsBack near then near
    else if 0 < far.digits && p.readsBack far then far
    else p.search tries (power - 1)

def Digits.stripped : (fuel : Nat) → Digits → Digits
  | 0, d => d
  | fuel + 1, d =>
    if d.digits % 10 = 0 && d.digits ≠ 0 then stripped fuel ⟨d.digits / 10, d.power + 1⟩ else d

def Parts.shortest (p : Parts) : Digits :=
  let (value, den) := p.quarters
  let magnitude : Int :=
    if den ≤ value then ((toString (value / den)).length : Int)
    else 1 - ((toString (den / (value + 1))).length : Int)
  ((p.search 24 (magnitude + 1)).stripped 400)

/-- The text of a number: positional between `10 ^ -5` and `10 ^ 16`, always with a point, and
else with a signed exponent. -/
def render (f : Float) : String :=
  let bits := f.toBits.toNat
  let sign := if bits / Nat.pow 2 63 = 1 then "-" else ""
  let rest := bits % Nat.pow 2 63
  if rest = 0 then sign ++ "0.0"
  else
    let d := (Parts.ofBits rest).shortest
    let ds := toString d.digits
    let point : Int := ds.length + d.power
    let zeros (n : Nat) := String.ofList (List.replicate n '0')
    sign ++
      if 0 ≤ d.power && point ≤ 16 then ds ++ zeros d.power.natAbs ++ ".0"
      else if 0 < point && point ≤ 16 then
        String.ofList (ds.toList.take point.natAbs) ++ "." ++
          String.ofList (ds.toList.drop point.natAbs)
      else if -5 < point && point ≤ 0 then "0." ++ zeros point.natAbs ++ ds
      else
        let e := point - 1
        let mantissa := match ds.toList with
          | [c] => String.ofList [c]
          | c :: cs => String.ofList (c :: '.' :: cs)
          | [] => ""
        mantissa ++ (if e < 0 then "e-" else "e+") ++ toString e.natAbs

/-- The text of a number without an exponent, and without a point when it is whole. -/
def renderPlain (f : Float) : String :=
  let bits := f.toBits.toNat
  let sign := if bits / Nat.pow 2 63 = 1 then "-" else ""
  let rest := bits % Nat.pow 2 63
  if rest = 0 then sign ++ "0"
  else
    let d := (Parts.ofBits rest).shortest
    let ds := toString d.digits
    let point : Int := ds.length + d.power
    let zeros (n : Nat) := String.ofList (List.replicate n '0')
    sign ++
      if 0 ≤ d.power then ds ++ zeros d.power.natAbs
      else if 0 < point then
        String.ofList (ds.toList.take point.natAbs) ++ "." ++
          String.ofList (ds.toList.drop point.natAbs)
      else "0." ++ zeros point.natAbs ++ ds

/-- `significand * 10 ^ exponent` by at most one rounding per factor, or nothing when that is
beyond the largest number. -/
def scale? (significand : Nat) (exponent : Int) : Option Float :=
  go (exponent.natAbs / 308 + 1) significand.toUInt64.toFloat exponent
where
  go : Nat → Float → Int → Option Float
    | 0, f, _ => some f
    | fuel + 1, f, exponent =>
      if exponent.natAbs ≤ 308 then
        let power := Float.ofScientific 1 false exponent.natAbs
        if 0 ≤ exponent then
          let product := f * power
          if product.isInf then none else some product
        else some (f / power)
      else if f == 0.0 then some f
      else if 0 ≤ exponent then none
      else go fuel (f / Float.ofScientific 1 false 308) (exponent + 308)

end ClipFeed.Number
