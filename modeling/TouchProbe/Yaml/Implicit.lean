import TouchProbe.Calendar
import TouchProbe.Number.Literal
import TouchProbe.Yaml.Graph

/-! # What plain scalars mean

A plain scalar without a tag is a truth value, a number, a date, nothing or a text by the way it
is written.  This module tells which; the values themselves are read elsewhere, also from scalars
that have a tag.
-/

namespace TouchProbe.Yaml

def truthWords : List (String × Bool) :=
  [("yes", true), ("no", false), ("true", true), ("false", false), ("on", true), ("off", false)]

/-- Whether a text is one of the given words in lower case, in upper case, or with a capital. -/
def isWord (words : List String) (s : List Char) : Bool :=
  words.any fun w =>
    let w := w.toList
    s == w || s == w.map Char.toUpper || s == (w.take 1).map Char.toUpper ++ w.drop 1

def isTruth (s : List Char) : Bool := isWord (truthWords.map (·.1)) s

/-- Whether a text stands for nothing. -/
def isNothing (s : List Char) : Bool := s.isEmpty || s == ['~'] || isWord ["null"] s

def dropSign : List Char → List Char
  | '+' :: s | '-' :: s => s
  | s => s

def isDigitMark (c : Char) : Bool := c.isDigit || c = '_'

/-- Whether a text is empty or a power of ten with a sign. -/
def isPower : List Char → Bool
  | [] => true
  | e :: sign :: d :: ds =>
    (e = 'e' || e = 'E') && (sign = '+' || sign = '-') && (d :: ds).all Char.isDigit
  | _ => false

/-- Whether a text is a part of a number in base sixty: one digit, or two below sixty. -/
def isSixtieth : List Char → Bool
  | [d] => d.isDigit
  | [d, e] => '0' ≤ d && d ≤ '5' && e.isDigit
  | _ => false

/-- Whether a text begins with a digit and has only digits and underscores. -/
def isDigits : List Char → Bool
  | d :: s => d.isDigit && s.all isDigitMark
  | [] => false

def isFloat (s : List Char) : Bool :=
  let body := dropSign s
  let whole := body.takeWhile isDigitMark
  let decimal :=
    match body.drop whole.length with
    | '.' :: r => isDigits whole && isPower (r.dropWhile isDigitMark)
    | _ => false
  let fraction :=
    match s with
    | '.' :: d :: r => d.isDigit && isPower (r.dropWhile isDigitMark)
    | _ => false
  let sixties :=
    match Text.splitOn '.' body with
    | [clock, places] =>
      match Text.splitOn ':' clock with
      | first :: next :: more =>
        isDigits first && (next :: more).all isSixtieth && places.all isDigitMark
      | _ => false
    | _ => false
  let infinite := body.head? = some '.' && isWord ["inf"] (body.drop 1)
  let nan := [".nan".toList, ".NaN".toList, ".NAN".toList].contains s
  decimal || fraction || sixties || infinite || nan

/-- Whether a character is a digit of a base, or an underscore. -/
def isBaseMark (base : Nat) (c : Char) : Bool := c = '_' || (Number.inBase? base [c]).isSome

def isInt (s : List Char) : Bool :=
  match dropSign s with
  | '0' :: 'b' :: d :: r => (d :: r).all (isBaseMark 2)
  | '0' :: 'x' :: d :: r => (d :: r).all (isBaseMark 16)
  | '0' :: r => r.all (isBaseMark 8)
  | d :: r =>
    match Text.splitOn ':' (d :: r) with
    | [_] => d.isDigit && r.all isDigitMark
    | first :: more => isDigits first && more.all isSixtieth
    | [] => false
  | [] => false

/-! ### Dates -/

structure DateParts where
  year : Nat
  month : Nat
  day : Nat
  /-- Whether month and day have two digits each. -/
  isFull : Bool
  /-- Hour, minute, second and the digits of the fraction. -/
  time : Option (Nat × Nat × Nat × List Nat)
  /-- The distance from universal time in minutes. -/
  offset : Option Int

/-- A number of so many digits at the front of a text, and the rest. -/
def digitsAt (least most : Nat) (s : List Char) : Option (Nat × Nat × List Char) :=
  let ds := (s.takeWhile Char.isDigit).take most
  if ds.length < least then none
  else some (Text.ofDigits (ds.map fun d => d.toNat - 48), ds.length, s.drop ds.length)

def after? (c : Char) : List Char → Option (List Char)
  | x :: s => if x = c then some s else none
  | [] => none

/-- The distance from universal time that ends a moment; no text is no distance. -/
def zone? (s : List Char) : Option (Option Int) :=
  match s.dropWhile fun c => c = ' ' || c = '\t' with
  | [] => if s.isEmpty then some none else none
  | ['Z'] => some (some 0)
  | sign :: r =>
    if sign != '+' && sign != '-' then none
    else do
      let (hours, _, r) ← digitsAt 1 2 r
      let minutes ← match r with
        | [] => some 0
        | _ => do
          let (minutes, _, r) ← digitsAt 2 2 (← after? ':' r)
          if r.isEmpty then some minutes else none
      some (some (Number.signed (sign = '-') (hours * 60 + minutes)))

/-- The time of a moment and its distance from universal time. -/
def time? (s : List Char) : Option ((Nat × Nat × Nat × List Nat) × Option Int) := do
  let s ← match s with
    | 'T' :: r | 't' :: r => some r
    | ' ' :: _ | '\t' :: _ => some (s.dropWhile fun c => c = ' ' || c = '\t')
    | _ => none
  let (hour, _, s) ← digitsAt 1 2 s
  let (minute, _, s) ← digitsAt 2 2 (← after? ':' s)
  let (second, _, s) ← digitsAt 2 2 (← after? ':' s)
  let (fraction, s) := match s with
    | '.' :: r => (r.takeWhile Char.isDigit, r.dropWhile Char.isDigit)
    | _ => ([], s)
  let offset ← zone? s
  some ((hour, minute, second, fraction.map fun d => d.toNat - 48), offset)

def dateParts? (s : List Char) : Option DateParts := do
  let (year, _, s) ← digitsAt 4 4 s
  let (month, m, s) ← digitsAt 1 2 (← after? '-' s)
  let (day, d, s) ← digitsAt 1 2 (← after? '-' s)
  let isFull := m == 2 && d == 2
  if s.isEmpty then some ⟨year, month, day, isFull, none, none⟩
  else do
    let (time, offset) ← time? s
    some ⟨year, month, day, isFull, some time, offset⟩

/-- Whether a text is written like a date or a moment; a date alone needs all its digits. -/
def isDate (s : List Char) : Bool := (dateParts? s).any fun p => p.isFull || p.time.isSome

/-- Whether a text is a mark that only readers of this language write. -/
def isLanguageMark (s : List Char) : Bool := s == ['!'] || s == ['&'] || s == ['*']

/-- The kind of a plain scalar by the way it is written. -/
def plainKind (s : List Char) : String :=
  if isTruth s then "bool"
  else if isFloat s then "float"
  else if isInt s then "int"
  else if s == ['<', '<'] then "merge"
  else if isNothing s then "null"
  else if isDate s then "timestamp"
  else if s == ['='] then "value"
  else if isLanguageMark s then "yaml"
  else "str"

/-- The tag of a plain scalar by the way it is written.  A line end after it does not count. -/
def plainTag (s : List Char) : String :=
  standardTag <|
    if s == ['\n'] then "str"
    else plainKind (if s.getLast? = some '\n' then s.dropLast else s)

end TouchProbe.Yaml
