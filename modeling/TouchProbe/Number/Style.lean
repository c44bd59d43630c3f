import TouchProbe.Number.Shortest

/-! # Writing floats

A `Style` says how floats are written: which whole numbers are written without a point, how a
number with a power of ten begins, and what stands for the values that are no real numbers.
All styles use the shortest decimal that reads back, and write it with a power of ten when the
first digit stands for `10 ^ 16` or more, or for less than `10 ^ -4`.
-/

namespace TouchProbe.Number

structure Style where
  /-- Whole numbers below this magnitude are written with all their digits and no point. -/
  wholeBelow : Nat
  /-- Whether the digits before a power of ten always have a point. -/
  pointBeforePower : Bool
  nan : String
  infinity : String

def digitChars (n : Nat) : List Char := Nat.toDigits 10 n

/-- The power of ten after a decimal: a sign and at least two digits. -/
def powerChars (e : Int) : List Char :=
  let ds := digitChars e.natAbs
  'e' :: (if e < 0 then '-' else '+') :: (List.replicate (2 - ds.length) '0' ++ ds)

/-- The digits `ds` with the point after the first `point` of them. -/
def positional (ds : List Char) (point : Int) : List Char :=
  if point ≤ 0 then '0' :: '.' :: (List.replicate (-point).toNat '0' ++ ds)
  else
    let whole := ds.take point.toNat
    let fraction := ds.drop point.toNat
    whole ++ List.replicate (point.toNat - ds.length) '0' ++
      '.' :: (if fraction.isEmpty then ['0'] else fraction)

/-- The digits `ds` with the point after the first of them and a power of ten. -/
def withPower (pointBeforePower : Bool) (ds : List Char) (e : Int) : List Char :=
  match ds with
  | [] => []
  | [d] => (if pointBeforePower then [d, '.', '0'] else [d]) ++ powerChars e
  | d :: fraction => d :: '.' :: fraction ++ powerChars e

def Style.decimal (style : Style) (x : Decimal) : List Char :=
  let ds := digitChars x.digits
  let point : Int := ds.length + x.exponent
  if point ≤ 16 ∧ -4 < point then positional ds point
  else withPower style.pointBeforePower ds (point - 1)

def Style.magnitude (style : Style) (m : Nat) (e : Int) : List Char :=
  let r := ratio m e
  if r.1 % r.2 = 0 ∧ r.1 / r.2 < style.wholeBelow then digitChars (r.1 / r.2)
  else if m = 0 then ['0', '.', '0']
  else style.decimal (shortest m e)

/-- A float written in a style.  A zero that is written without a point has no sign. -/
def Style.write (style : Style) (x : Float) : String :=
  match parts x with
  | .nan => style.nan
  | .infinite negative => if negative then "-" ++ style.infinity else style.infinity
  | .finite negative m e =>
    let body := style.magnitude m e
    String.ofList (if negative && !(m == 0 && style.wholeBelow != 0) then '-' :: body else body)

/-- The style of messages: always a point or a power of ten. -/
def messageStyle : Style := ⟨0, false, "nan", "inf"⟩

example : messageStyle.write (nearest false 1 10) = "0.1" := by decide +kernel

example : messageStyle.write (nearest true (10 ^ 16) 1) = "-1e+16" := by decide +kernel

example : messageStyle.write (nearest false 15 (10 ^ 6)) = "1.5e-05" := by decide +kernel

/-! ### A given number of digits -/

def paddedDigits (width n : Nat) : List Char :=
  let ds := digitChars n
  List.replicate (width - ds.length) '0' ++ ds

/-- The whole number `n` with the point before its last `places` digits.  Without such digits there is
a point only if `full`. -/
def withPlaces (full : Bool) (places n : Nat) : List Char :=
  let ds := paddedDigits (places + 1) n
  let whole := ds.take (ds.length - places)
  if places = 0 && !full then whole else whole ++ '.' :: ds.drop (ds.length - places)

/-- The greatest `e` with `10 ^ e ≤ num / den`, for a ratio above zero; `fuel` bounds the zeros
after the point that are skipped. -/
def floorLogTen (fuel : Nat) (num den : Nat) : Int :=
  if den ≤ num then (digitChars (num / den)).length - 1
  else
    match fuel with
    | 0 => 0
    | fuel + 1 => floorLogTen fuel (10 * num) den - 1

/-- The ratio `num / den`, above zero, rounded to `count` digits. -/
def toDigits (count num den : Nat) : Decimal :=
  let top := floorLogTen 400 num den
  let t : Int := top - (count - 1)
  let n := roundDiv (num * 10 ^ (-t).toNat) (den * 10 ^ t.toNat)
  if n = 10 ^ count then ⟨10 ^ (count - 1), t + 1⟩ else ⟨n, t⟩

def trimZeros (s : List Char) : List Char := (s.reverse.dropWhile (· == '0')).reverse

/-- A magnitude with a given number of places after the point. -/
def fixedMagnitude (full : Bool) (places m : Nat) (e : Int) : List Char :=
  let r := ratio m e
  withPlaces full places (roundDiv (r.1 * 10 ^ places) r.2)

/-- A magnitude with one digit before the point, `places` after it, and a power of ten. -/
def powerMagnitude (full : Bool) (places m : Nat) (e : Int) : List Char :=
  let x : Decimal := if m = 0 then ⟨0, -places⟩ else let r := ratio m e; toDigits (places + 1) r.1 r.2
  withPlaces full places x.digits ++ powerChars (x.exponent + places)

/-- A whole part and a fraction; unless `full`, without the zeros at the end of the fraction. -/
def withFraction (full : Bool) (whole fraction : List Char) : List Char :=
  if full then whole ++ '.' :: fraction
  else
    let fraction := trimZeros fraction
    if fraction.isEmpty then whole else whole ++ '.' :: fraction

/-- A magnitude with at most `count` digits, whichever of the two notations suits it.  Unless
`full`, a fraction has no zeros at its end. -/
def generalMagnitude (full : Bool) (count m : Nat) (e : Int) : List Char :=
  let count := max 1 count
  let x : Decimal := if m = 0 then ⟨0, 1 - count⟩ else let r := ratio m e; toDigits count r.1 r.2
  let ds := paddedDigits count x.digits
  let top : Int := x.exponent + count - 1
  if top < -4 ∨ (count : Int) ≤ top then
    withFraction full (ds.take 1) (ds.drop 1) ++ powerChars top
  else if top < 0 then
    withFraction full ['0'] (List.replicate (-top - 1).toNat '0' ++ ds)
  else withFraction full (ds.take (top.toNat + 1)) (ds.drop (top.toNat + 1))

def writeWith (body : Nat → Int → List Char) (x : Float) : String :=
  match parts x with
  | .nan => "nan"
  | .infinite negative => if negative then "-inf" else "inf"
  | .finite negative m e => String.ofList (if negative then '-' :: body m e else body m e)

def fixed (places : Nat) (x : Float) : String := writeWith (fixedMagnitude false places) x

/-- A float with at most `count` digits (at least one). -/
def general (count : Nat) (x : Float) : String := writeWith (generalMagnitude false count) x

end TouchProbe.Number
