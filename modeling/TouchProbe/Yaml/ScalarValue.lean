import TouchProbe.Datum
import TouchProbe.Text.Lower
import TouchProbe.Yaml.Implicit

/-! # Values of scalars

What the text of a scalar stands for by its tag: nothing, a truth value, a number, a date, bytes or
the text itself.  A number may have underscores in it, may be written in another base, and may
count sixty of each part for one of the part before.
-/

namespace TouchProbe.Yaml

open Number

def dropMarks (s : List Char) : List Char := s.filter (· != '_')

def failWith {α : Type} (f : Fault) : Reads α := .error (.fault f)

def orFault {α : Type} (r : Except Fault α) : Reads α :=
  match r with
  | .ok a => .ok a
  | .error f => failWith f

def signOf (s : List Char) : Reads (Bool × List Char) :=
  match s with
  | [] => failWith .emptyNumber
  | _ => .ok (takeSign s)

/-- The letters that may stand after a zero before the digits of a base. -/
def baseMark : Nat → Char
  | 2 => 'b'
  | 8 => 'o'
  | _ => 'x'

def dropBaseMark (base : Nat) (s : List Char) : List Char :=
  match s with
  | '0' :: c :: r => if c.toLower = baseMark base then r else s
  | _ => s

/-- A character, or the ASCII digit of the same value. -/
def asciiDigit (c : Char) : Char :=
  match Text.digitValue? c with
  | some d => Char.ofNat (48 + d)
  | none => c

/-- The whole number written in a base; blanks and a sign may stand before it, and the digits may
be those of any script. -/
def readBase (base : Nat) (s : List Char) : Reads Int :=
  let sign := takeSign ((trimNumeral s).map asciiDigit)
  match inBase? base (dropBaseMark base sign.2) with
  | some n => .ok (signed sign.1 n)
  | none =>
    let shown := (Text.quote (String.ofList s)).toList.take 200
    failWith (.unreadableInt base (String.ofList shown))

def readDecimal (s : List Char) : Reads Int :=
  orFault (Scalar.text (String.ofList s)).toInt

/-- The value of numbers that count sixty of the next one each. -/
def ofSixties (parts : List Int) : Int := parts.foldl (fun n d => 60 * n + d) 0

def intValue (text : String) : Reads Int := do
  let (negative, s) ← signOf (dropMarks text.toList)
  let apply (n : Int) : Int := if negative then -n else n
  match s with
  | [] => failWith .emptyNumber
  | ['0'] => return 0
  | '0' :: 'b' :: r => return apply (← readBase 2 r)
  | '0' :: 'x' :: r => return apply (← readBase 16 r)
  | '0' :: r => return apply (← readBase 8 ('0' :: r))
  | s =>
    if s.contains ':' then
      return apply (ofSixties (← (Text.splitOn ':' s).mapM readDecimal))
    else return apply (← readDecimal s)

def readFloat (s : List Char) : Reads Float := orFault (Scalar.text (String.ofList s)).toFloat

/-- The value of floats that count sixty of the next one each, given last one first: each counts
as often as the given power of sixty says. -/
def ofFloatSixties (sum : Float) (power : Int) : List Float → Except Fault Float
  | [] => .ok sum
  | d :: rest => do ofFloatSixties (sum + d * (← (Number.whole power).toFloat)) (power * 60) rest

def floatValue (text : String) : Reads Float := do
  let (negative, s) ← signOf (Text.lower (dropMarks text.toList))
  let apply (x : Float) : Float := if negative then -x else x
  if s = ".inf".toList then return apply infinity
  else if s = ".nan".toList then return notANumber
  else if s.contains ':' then
    let parts ← (Text.splitOn ':' s).mapM readFloat
    return apply (← orFault (ofFloatSixties zero 1 parts.reverse))
  else return apply (← readFloat s)

def truthValue (text : String) : Reads Bool :=
  let word := String.ofList (Text.lower text.toList)
  match truthWords.lookup word with
  | some b => .ok b
  | none => failWith (.unknownWord word)

def microsecondsOf (digits : List Nat) : Nat :=
  let ds := digits.take 6
  Text.ofDigits ds * 10 ^ (6 - ds.length)

def dateValue (text : String) : Reads Datum := do
  let calendar {α : Type} (r : Except CalendarFault α) : Reads α :=
    orFault (r.mapError .calendar)
  let s := text.toList
  let s := if s.getLast? = some '\n' then s.dropLast else s
  match dateParts? s with
  | none => failWith .noSuchMember
  | some p =>
    match p.time with
    | none => return .date (← calendar (Calendar.date? p.year p.month p.day))
    | some (hour, minute, second, fraction) =>
      if let some n := p.offset then
        if 1440 ≤ n.natAbs then failWith (.calendar (.offset n))
      let date ← calendar (Calendar.date? p.year p.month p.day)
      let clock ← calendar (Calendar.clock? hour minute second (microsecondsOf fraction))
      return .moment ⟨date, clock, p.offset⟩

/-- The value of a character of a byte text in base sixty-four. -/
def sixBits? (c : Char) : Option Nat :=
  let n := c.toNat
  if 65 ≤ n && n ≤ 90 then some (n - 65)
  else if 97 ≤ n && n ≤ 122 then some (n - 71)
  else if c.isDigit then some (n + 4)
  else if c = '+' then some 62
  else if c = '/' then some 63
  else none

/-- The bytes of a byte text: `held` bits of the value `bits` are left from before, and `pads`
signs of the end came in a row.  Other characters are passed over. -/
def bytesFrom (held bits pads : Nat) : List Char → Reads (List UInt8)
  | [] => if held = 0 then .ok [] else .error .illFormed
  | '=' :: s =>
    let place := if held = 0 then 0 else 4 - held / 2
    if 2 ≤ place && 4 ≤ place + pads + 1 then .ok []
    else bytesFrom held bits (if 2 ≤ place then pads + 1 else pads) s
  | c :: s =>
    match sixBits? c with
    | none => bytesFrom held bits pads s
    | some v =>
      if held = 0 then bytesFrom 6 v 0 s
      else
        let held := held - 2
        do
          let rest ← bytesFrom held ((bits * 64 + v) % 2 ^ held) 0 s
          return UInt8.ofNat ((bits * 64 + v) / 2 ^ held) :: rest

def bytesValue (text : String) : Reads Datum :=
  if text.toList.all (·.toNat < 128) then (bytesFrom 0 0 0 text.toList).map .bytes
  else .error .illFormed

def textValue (tag text : String) : Reads Datum := do
  if tag == standardTag "null" then return .null
  else if tag == standardTag "bool" then return .bool (← truthValue text)
  else if tag == standardTag "int" then return .int (← intValue text)
  else if tag == standardTag "float" then return .float (← floatValue text)
  else if tag == standardTag "binary" then bytesValue text
  else if tag == standardTag "timestamp" then dateValue text
  else if tag == standardTag "str" then return .text text
  else throw .illFormed

end TouchProbe.Yaml
