import TouchProbe.Number.Binary

/-! # The shortest decimal of a float

The decimal that a float is written with is the shortest one that reads back as the same
float, and the nearest to the float among those of that length.

The reals that round to a float form an interval around it.  A decimal of the form
`digits * 10 ^ t` is a point of the grid of `t`; the coarser the grid, the shorter the decimal.
So the search goes from coarse grids to fine ones and on each of them tries the two neighbours
of the float.  Every test is a comparison of natural numbers.
-/

namespace TouchProbe.Number

/-- The magnitude `digits * 10 ^ exponent`. -/
structure Decimal where
  digits : Nat
  exponent : Int
  deriving DecidableEq, Repr

/-- The magnitudes that round to one float, in units of a power of two: the float is at
`middle`, and the ends belong to the interval when it is `closed`. -/
structure Interval where
  low : Nat
  middle : Nat
  high : Nat
  unit : Int
  closed : Bool

/-- The interval of `significand * 2 ^ exponent`.  It reaches half way to the neighbours on both
sides; below the smallest significand of a binade the neighbours are twice as dense. -/
def interval (significand : Nat) (exponent : Int) : Interval where
  low := 4 * significand - (if significand = 2 ^ 52 ∧ leastExponent < exponent then 1 else 2)
  middle := 4 * significand
  high := 4 * significand + 2
  unit := exponent - 2
  closed := significand % 2 == 0

/-- The factors `a` and `b` for which `d * 10 ^ t` and `n * 2 ^ unit` compare as `d * a` and
`n * b`. -/
def gridFactors (t unit : Int) : Nat × Nat :=
  (10 ^ t.toNat * 2 ^ (-unit).toNat, 2 ^ unit.toNat * 10 ^ (-t).toNat)

def Interval.holds (i : Interval) (t : Int) (d : Nat) : Bool :=
  let f := gridFactors t i.unit
  if i.closed then i.low * f.2 ≤ d * f.1 && d * f.1 ≤ i.high * f.2
  else i.low * f.2 < d * f.1 && d * f.1 < i.high * f.2

/-- The point of the grid of `t` that lies in an interval and is nearest to its middle; of two
equally near ones the even one. -/
def Interval.onGrid? (i : Interval) (t : Int) : Option Decimal :=
  let f := gridFactors t i.unit
  let below := i.middle * f.2 / f.1
  let above := below + 1
  let toBelow := i.middle * f.2 - below * f.1
  let toAbove := above * f.1 - i.middle * f.2
  let nearer :=
    if toBelow < toAbove then below
    else if toAbove < toBelow then above
    else if below % 2 = 0 then below else above
  if i.holds t nearer then some ⟨nearer, t⟩
  else if i.holds t below then some ⟨below, t⟩
  else if i.holds t above then some ⟨above, t⟩
  else none

/-- The coarsest grid that is worth a try for a magnitude below `2 ^ bits`; the factor is the
decimal logarithm of two. -/
def coarsestGrid (bits : Int) : Int := bits * 30103 / 100000 + 2

def exactDecimal (significand : Nat) (exponent : Int) : Decimal :=
  if 0 ≤ exponent then ⟨significand * 2 ^ exponent.toNat, 0⟩
  else ⟨significand * 5 ^ (-exponent).toNat, exponent⟩

/-- The shortest decimal that reads back as `significand * 2 ^ exponent`.  Seventeen digits are
always enough, so the grids that are tried end with a point of the interval. -/
def shortest (significand : Nat) (exponent : Int) : Decimal :=
  let top := coarsestGrid (significand.log2 + 1 + exponent)
  let i := interval significand exponent
  ((List.range 24).findSome? fun (k : Nat) => i.onGrid? (top - k)).getD (exactDecimal significand exponent)

example : shortest 1 leastExponent = ⟨5, -324⟩ := by decide +kernel

example : shortest 0x1999999999999A (-56) = ⟨1, -1⟩ := by decide +kernel

end TouchProbe.Number
