import TouchProbe.Fault
import TouchProbe.Number.Literal

/-! # Scalars and numbers

A `Scalar` is a single value as somebody gave it.  A `Number` is what arithmetic is done on: a
whole number of any size, or a float.  Whole numbers stay whole as long as they meet only whole
numbers, and are rounded to a float when they meet one.
-/

namespace TouchProbe

/-- A single value as it was given. -/
inductive Scalar where
  | null
  | bool (b : Bool)
  | int (n : Int)
  | float (x : Float)
  | text (s : String)

/-- A number: whole, of any size, or a float. -/
inductive Number where
  | whole (n : Int)
  | real (x : Float)

instance : Inhabited Scalar := ⟨.null⟩

namespace Number

def toFloat : Number → Except Fault Float
  | .whole n => match ofInt? n with
    | some x => .ok x
    | none => .error .beyondFloat
  | .real x => .ok x

/-- An operation on two numbers, given for whole numbers and for floats. -/
def combine (onWhole : Int → Int → Int) (onReal : Float → Float → Float) :
    Number → Number → Except Fault Number
  | .whole m, .whole n => .ok (.whole (onWhole m n))
  | .real x, .real y => .ok (.real (onReal x y))
  | a, b => do
    let x ← a.toFloat
    let y ← b.toFloat
    .ok (.real (onReal x y))

def add : Number → Number → Except Fault Number := combine (· + ·) (· + ·)

def sub : Number → Number → Except Fault Number := combine (· - ·) (· - ·)

def mul : Number → Number → Except Fault Number := combine (· * ·) (· * ·)

def two : Float := nearest false 2 1

def zero : Float := ofSignCode false 0

/-- The square of a number.  The square of a finite float that is beyond all floats is a fault. -/
def square : Number → Except Fault Number
  | .whole n => .ok (.whole (n * n))
  | .real x =>
    if isZero x then .ok (.real zero)
    else if (x * x).isInf && x.isFinite then .error .squareBeyondFloat
    else .ok (.real (x.pow two))

def isNegative : Number → Bool
  | .whole n => n < 0
  | .real x => x < zero

def isNotPositive : Number → Bool
  | .whole n => n ≤ 0
  | .real x => x ≤ zero

def isPositive : Number → Bool
  | .whole n => 0 < n
  | .real x => zero < x

def isNull : Number → Bool
  | .whole n => n == 0
  | .real x => isZero x

def same : Number → Number → Bool
  | .whole m, .whole n => m == n
  | .real x, .real y => x == y
  | .whole n, .real x | .real x, .whole n => isWhole x && truncate? x == some n

/-- The whole number that a number is cut to. -/
def toInt : Number → Except Fault Int
  | .whole n => .ok n
  | .real x => match truncate? x with
    | some n => .ok n
    | none => .error (if x.isNaN then .nanToInt else .infiniteToInt)

def toScalar : Number → Scalar
  | .whole n => .int n
  | .real x => .float x

end Number

namespace Scalar

/-- The number that a scalar is; a truth value counts as one or zero. -/
def number? : Scalar → Option Number
  | .bool b => some (.whole (if b then 1 else 0))
  | .int n => some (.whole n)
  | .float x => some (.real x)
  | .null | .text _ => none

/-- The number that a scalar is, where no other value will do. -/
def toNumber (s : Scalar) : Except Fault Number :=
  match s.number? with
  | some n => .ok n
  | none => .error .wrongKind

/-- The most digits of a whole number that are read or written. -/
def digitLimit : Nat := 4300

/-- The float that a text stands for, given as messages show it. -/
def readFloat (s shown : String) : Except Fault Float :=
  match Number.float? s with
  | some x => .ok x
  | none => .error (.unreadableFloat shown)

/-- The most characters of an unreadable whole number that a message shows. -/
def shownLimit : Nat := 200

def readInt (s shown : String) : Except Fault Int :=
  match Number.int? s with
  | some (n, count) => if digitLimit < count then .error (.tooManyDigits count) else .ok n
  | none => .error (.unreadableInt 10 (String.ofList (shown.toList.take shownLimit)))

/-- The float that a scalar stands for; texts are read. -/
def toFloat : Scalar → Except Fault Float
  | .text s => readFloat s (Text.quote s)
  | s => do (← s.toNumber).toFloat

/-- The whole number that a scalar stands for; texts are read and floats are cut. -/
def toInt : Scalar → Except Fault Int
  | .text s => readInt s (Text.quote s)
  | s => do (← s.toNumber).toInt

/-- Whether a scalar counts as true: not null, not zero, not an empty text. -/
def isTruthy (s : Scalar) : Bool :=
  match s, s.number? with
  | .text t, _ => !t.isEmpty
  | _, some n => !n.isNull
  | _, none => false

/-- Whether a scalar is below zero, where only numbers will do. -/
def isNegative (s : Scalar) : Except Fault Bool := do return (← s.toNumber).isNegative

/-- Whether two scalars are equal: numbers by value, and nothing else equals a number. -/
def same (a b : Scalar) : Bool :=
  match a, b with
  | .null, .null => true
  | .text s, .text t => s == t
  | a, b => match a.number?, b.number? with
    | some m, some n => m.same n
    | _, _ => false

/-- Whether a scalar is a whole number of more digits than are written. -/
def isTooLong : Scalar → Bool
  | .int n => 10 ^ digitLimit ≤ n.natAbs
  | _ => false

def plain : Scalar → String
  | .null => "None"
  | .bool true => "True"
  | .bool false => "False"
  | .int n => toString n
  | .float x => Number.messageStyle.write x
  | .text s => s

/-- A scalar as messages show it: texts are quoted. -/
def shown : Scalar → String
  | .text s => Text.quote s
  | s => s.plain

end Scalar

end TouchProbe
