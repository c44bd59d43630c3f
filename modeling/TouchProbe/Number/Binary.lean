/-! # Floats as exact values

A finite float is a sign and a magnitude `significand * 2 ^ exponent`.  `parts` reads the three
off a float and `nearest` goes the other way: it gives the float nearest to a ratio of natural
numbers, a tie going to the even significand.  Everything between the two is exact arithmetic
on natural numbers.
-/

namespace TouchProbe.Number

/-- Powers are the core library's own, whatever else is imported beside them. -/
@[default_instance 20000]
instance (priority := 2000) corePow {α : Type} [NatPow α] : Pow α Nat := instPowNat

inductive Parts where
  | nan
  | infinite (negative : Bool)
  /-- The magnitude is `significand * 2 ^ exponent`. -/
  | finite (negative : Bool) (significand : Nat) (exponent : Int)
  deriving DecidableEq, Repr

/-- The exponent of the smallest magnitudes. -/
def leastExponent : Int := -1074

/-- The code of infinity, in the bits below the sign. -/
def infinityCode : Nat := 2047 * 2 ^ 52

/-- The magnitude that the bits below the sign encode. -/
def ofCode (negative : Bool) (code : Nat) : Parts :=
  let field : Nat := code / 2 ^ 52
  let low := code % 2 ^ 52
  if field = 2047 then
    if low = 0 then .infinite negative else .nan
  else if field = 0 then .finite negative low leastExponent
  else .finite negative (2 ^ 52 + low) (field - 1075)

def parts (x : Float) : Parts :=
  let bits := x.toBits.toNat
  ofCode (bits / 2 ^ 63 == 1) (bits % 2 ^ 63)

/-- The float of a sign and the bits below it. -/
def ofSignCode (negative : Bool) (code : Nat) : Float :=
  Float.ofBits (UInt64.ofNat (if negative then 2 ^ 63 + code else code))

/-- Division with the result rounded to the nearest whole number, a tie to the even one. -/
def roundDiv (num den : Nat) : Nat :=
  let q := num / den
  let r := num % den
  if 2 * r < den then q
  else if den < 2 * r then q + 1
  else q + q % 2

/-- The ratio `num / den` measured in units of `2 ^ e`, as a ratio again. -/
def inUnits (num den : Nat) (e : Int) : Nat × Nat :=
  (num * 2 ^ (-e).toNat, den * 2 ^ e.toNat)

/-- The greatest `e` with `2 ^ e ≤ num / den`, for a ratio above zero. -/
def floorLog (num den : Nat) : Int :=
  let e : Int := (num.log2 : Int) - den.log2
  let r := inUnits num den e
  if r.2 ≤ r.1 then e else e - 1

/-- The bits below the sign of the float nearest to `num / den`. -/
def nearestCode (num den : Nat) : Nat :=
  if num = 0 then 0
  else
    let e := max leastExponent (floorLog num den - 52)
    let r := inUnits num den e
    min infinityCode ((e - leastExponent).toNat * 2 ^ 52 + roundDiv r.1 r.2)

def nearest (negative : Bool) (num den : Nat) : Float :=
  ofSignCode negative (nearestCode num den)

/-- The float nearest to a whole number; `none` when that is beyond the largest float. -/
def ofInt? (n : Int) : Option Float :=
  let code := nearestCode n.natAbs 1
  if code = infinityCode then none else some (ofSignCode (n < 0) code)

/-- The magnitude `significand * 2 ^ exponent` as a ratio. -/
def ratio (significand : Nat) (exponent : Int) : Nat × Nat :=
  (significand * 2 ^ exponent.toNat, 2 ^ (-exponent).toNat)

def signed (negative : Bool) (n : Nat) : Int := if negative then -n else n

/-- The whole number that a float is cut to; `none` for those that are not finite. -/
def truncate? (x : Float) : Option Int :=
  match parts x with
  | .finite negative m e => let r := ratio m e; some (signed negative (r.1 / r.2))
  | _ => none

def isWhole (x : Float) : Bool :=
  match parts x with
  | .finite _ m e => let r := ratio m e; r.1 % r.2 == 0
  | _ => false

/-- Whether a float is zero, of either sign. -/
def isZero (x : Float) : Bool :=
  match parts x with
  | .finite _ m _ => m == 0
  | _ => false

def infinity : Float := ofSignCode false infinityCode

def notANumber : Float := ofSignCode false (infinityCode + 2 ^ 51)

end TouchProbe.Number
