import TouchProbe.Number.Binary
import TouchProbe.Text.Blank
import TouchProbe.Text.Digits

/-! # Reading numbers

A numeral is read in two steps.  The scanners take the digits of a numeral off the front of a
text and keep what follows; `Numeral.toFloat` then rounds the exact decimal once.

Two readers take a whole text.  `float?` and `int?` allow blanks around the numeral, a sign, the
digits of any script, and single underscores between digits.
-/

namespace TouchProbe.Number

open Text

/-- A decimal numeral: the digits before and after the point and the power of ten. -/
structure Numeral where
  negative : Bool
  whole : List Nat
  fraction : List Nat
  power : Int
  deriving DecidableEq, Repr

/-- The float nearest to `digits * 10 ^ power`.  Powers far outside the range of floats are
settled without computing them. -/
def nearestDecimal (negative : Bool) (digits : Nat) (power : Int) : Float :=
  if digits = 0 then ofSignCode negative 0
  else if 400 < power then ofSignCode negative infinityCode
  else if power + (digits.log2 + 1) < -400 then ofSignCode negative 0
  else nearest negative (digits * 10 ^ power.toNat) (10 ^ (-power).toNat)

def Numeral.toFloat (n : Numeral) : Float :=
  nearestDecimal n.negative (ofDigits (n.whole ++ n.fraction)) (n.power - n.fraction.length)

/-- The values of the digits at the front of a text, and the rest. -/
def spanDigits : List Char → List Nat × List Char
  | [] => ([], [])
  | c :: s =>
    match digitValue? c with
    | some d => let r := spanDigits s; (d :: r.1, r.2)
    | none => ([], c :: s)

def takeSign : List Char → Bool × List Char
  | '-' :: s => (true, s)
  | '+' :: s => (false, s)
  | s => (false, s)

/-- Digits with an optional fraction at the front of a text: `12`, `12.`, `12.5` or `.5`. -/
def unsigned? (s : List Char) : Option (Numeral × List Char) :=
  match spanDigits s with
  | ([], '.' :: r) =>
    match spanDigits r with
    | ([], _) => none
    | (fraction, rest) => some (⟨false, [], fraction, 0⟩, rest)
  | ([], _) => none
  | (whole, '.' :: r) => let f := spanDigits r; some (⟨false, whole, f.1, 0⟩, f.2)
  | (whole, rest) => some (⟨false, whole, [], 0⟩, rest)

/-- The same with an optional sign in front. -/
def decimal? (s : List Char) : Option (Numeral × List Char) :=
  let sign := takeSign s
  (unsigned? sign.2).map fun r => ({ r.1 with negative := sign.1 }, r.2)

/-- The power of ten at the front of a text: `e`, an optional sign and digits. -/
def takePower (s : List Char) : Int × List Char :=
  match s with
  | c :: r =>
    if c = 'e' || c = 'E' then
      let sign := takeSign r
      match spanDigits sign.2 with
      | ([], _) => (0, s)
      | (ds, rest) => (signed sign.1 (ofDigits ds), rest)
    else (0, s)
  | [] => (0, [])

/-- The numeral at the front of a text: a sign, digits with a fraction, a power of ten. -/
def scientific? (s : List Char) : Option (Numeral × List Char) :=
  (decimal? s).map fun r => let p := takePower r.2; ({ r.1 with power := p.1 }, p.2)

/-- A text without underscores; `none` if one of them is not between two digits. -/
def dropUnderscores (afterDigit : Bool) : List Char → Option (List Char)
  | [] => some []
  | '_' :: c :: s =>
    if afterDigit && isDigit c then (dropUnderscores true s).map (c :: ·) else none
  | '_' :: [] => none
  | c :: s => (dropUnderscores (isDigit c) s).map (c :: ·)

/-- Blanks that may surround a numeral: the ASCII separators are not among them. -/
def isNumeralBlank (c : Char) : Bool := isBlank c && !(28 ≤ c.toNat && c.toNat ≤ 31)

def trimNumeral (s : List Char) : List Char :=
  ((s.dropWhile isNumeralBlank).reverse.dropWhile isNumeralBlank).reverse

/-- The names of the values that are no real numbers, in lower case. -/
def named? (negative : Bool) (s : List Char) : Option Float :=
  let name := s.map Char.toLower
  if name = "inf".toList || name = "infinity".toList then
    some (ofSignCode negative infinityCode)
  else if name = "nan".toList then some notANumber
  else none

def float? (text : String) : Option Float := do
  let s ← dropUnderscores false (trimNumeral text.toList)
  let sign := takeSign s
  match named? sign.1 sign.2 with
  | some x => some x
  | none =>
    match scientific? s with
    | some (n, []) => some n.toFloat
    | _ => none

/-- The whole number that a whole text stands for, with its number of digits. -/
def int? (text : String) : Option (Int × Nat) := do
  let s ← dropUnderscores false (trimNumeral text.toList)
  let sign := takeSign s
  match spanDigits sign.2 with
  | ([], _) => none
  | (ds, []) => some (signed sign.1 (ofDigits ds), ds.length)
  | _ => none

/-- The whole number written in a base by the digits `0` to `9` and `a` to `f` of a text. -/
def inBase? (base : Nat) (s : List Char) : Option Nat :=
  let value (c : Char) : Option Nat :=
    let d := if c.isDigit then c.toNat - 48 else c.toLower.toNat - 87
    if (c.isDigit || ('a' ≤ c.toLower && c.toLower ≤ 'f')) && d < base then some d else none
  if s.isEmpty then none else (s.mapM value).map fun ds => ds.foldl (fun n d => base * n + d) 0

end TouchProbe.Number
