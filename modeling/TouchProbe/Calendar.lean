import TouchProbe.Number.Style

/-! # Dates and times

The Gregorian calendar, extended to the years before it, from year 1 to year 9999.  Days are
counted from the first of January 1970.
-/

namespace TouchProbe

structure Date where
  year : Nat
  month : Nat
  day : Nat
  deriving DecidableEq, Repr

/-- A time of a day, to the microsecond. -/
structure Clock where
  hour : Nat
  minute : Nat
  second : Nat
  microsecond : Nat
  deriving DecidableEq, Repr

/-- A time of a day together with its distance from universal time, in minutes, if known. -/
structure Moment where
  date : Date
  clock : Clock
  offset : Option Int
  deriving DecidableEq, Repr

inductive CalendarFault where
  | year (n : Int)
  | month
  | day
  | hour
  | minute
  | second
  | offset (minutes : Int)
  | notANumber
  | beyondClocks
  deriving DecidableEq, Repr

namespace Calendar

def isLeap (year : Nat) : Bool := year % 4 == 0 && (year % 100 != 0 || year % 400 == 0)

def daysIn (year month : Nat) : Nat :=
  if month = 2 then (if isLeap year then 29 else 28)
  else if month = 4 ∨ month = 6 ∨ month = 9 ∨ month = 11 then 30
  else 31

def date? (year month day : Nat) : Except CalendarFault Date :=
  if year < 1 ∨ 9999 < year then .error (.year year)
  else if month < 1 ∨ 12 < month then .error .month
  else if day < 1 ∨ daysIn year month < day then .error .day
  else .ok ⟨year, month, day⟩

def clock? (hour minute second microsecond : Nat) : Except CalendarFault Clock :=
  if 23 < hour then .error .hour
  else if 59 < minute then .error .minute
  else if 59 < second then .error .second
  else .ok ⟨hour, minute, second, microsecond⟩

/-- The year, month and day of a day count, by eras of four hundred years that begin with March. -/
def ofDays (days : Int) : Int × Nat × Nat :=
  let z := days + 719468
  let era := Int.fdiv z 146097
  let doe := (z - era * 146097).toNat
  let yoe := (doe - doe / 1460 + doe / 36524 - doe / 146096) / 365
  let doy := doe - (365 * yoe + yoe / 4 - yoe / 100)
  let mp := (5 * doy + 2) / 153
  let day := doy - (153 * mp + 2) / 5 + 1
  let month := if mp < 10 then mp + 3 else mp - 9
  let year := era * 400 + yoe + (if month ≤ 2 then 1 else 0)
  (year, month, day)

def toDays (d : Date) : Int :=
  let y : Int := if d.month ≤ 2 then (d.year : Int) - 1 else d.year
  let era := Int.fdiv y 400
  let yoe := y - era * 400
  let mp : Int := if d.month ≤ 2 then (d.month : Int) + 9 else (d.month : Int) - 3
  let doy := (153 * mp + 2) / 5 + d.day - 1
  era * 146097 + (yoe * 365 + yoe / 4 - yoe / 100 + doy) - 719468

example : toDays ⟨1970, 1, 1⟩ = 0 ∧ toDays ⟨2000, 3, 1⟩ = 11017 ∧ ofDays 11017 = (2000, 3, 1) := by
  decide

/-- The nearest whole number to a float; a half goes to the even neighbour. -/
def roundEven (x : Float) : Int :=
  match Number.parts x with
  | .finite negative m e => let r := Number.ratio m e; Number.signed negative (Number.roundDiv r.1 r.2)
  | _ => 0

/-- The number of microseconds that is nearest to a number of seconds.  The seconds are split first,
and only the fraction is scaled and rounded. -/
def microseconds (seconds : Float) : Except CalendarFault Int :=
  match Number.truncate? seconds with
  | none => .error (if seconds.isNaN then .notANumber else .beyondClocks)
  | some whole =>
    if 2 ^ 63 ≤ whole ∨ whole < -2 ^ 63 then .error .beyondClocks
    else
      let start := Number.nearest (whole < 0) whole.natAbs 1
      .ok (whole * 1000000 + roundEven ((seconds - start) * Number.nearest false 1000000 1))

/-- The moment, in universal time, of a count of microseconds since the beginning of 1970. -/
def ofMicroseconds (us : Int) : Except CalendarFault Moment :=
  let seconds := Int.fdiv us 1000000
  let days := Int.fdiv seconds 86400
  let rest := (seconds - days * 86400).toNat
  let (year, month, day) := ofDays days
  if year < 1 ∨ 9999 < year then .error (.year year)
  else .ok {
    date := ⟨year.toNat, month, day⟩
    clock := ⟨rest / 3600, rest / 60 % 60, rest % 60, (us - seconds * 1000000).toNat⟩
    offset := some 0 }

def ofSeconds (seconds : Float) : Except CalendarFault Moment :=
  microseconds seconds >>= ofMicroseconds

end Calendar

def Clock.microseconds (c : Clock) : Nat :=
  ((c.hour * 60 + c.minute) * 60 + c.second) * 1000000 + c.microsecond

/-- Whether two moments are equal: those whose distance from universal time is known are equal
when they are the same instant, and no other moment equals them. -/
def Moment.same (a b : Moment) : Bool :=
  let instant (m : Moment) (minutes : Int) : Int :=
    Calendar.toDays m.date * 86400000000 + m.clock.microseconds - minutes * 60000000
  match a.offset, b.offset with
  | none, none => a == b
  | some m, some n => instant a m == instant b n
  | _, _ => false

private def padded (width n : Nat) : String := String.ofList (Number.paddedDigits width n)

def Date.text (d : Date) : String := s!"{padded 4 d.year}-{padded 2 d.month}-{padded 2 d.day}"

def Clock.seconds (c : Clock) : String :=
  s!"{padded 2 c.hour}:{padded 2 c.minute}:{padded 2 c.second}"

/-- A time with its microseconds, if it has any. -/
def Clock.text (c : Clock) : String :=
  if c.microsecond = 0 then c.seconds else s!"{c.seconds}.{padded 6 c.microsecond}"

def offsetText (minutes : Int) : String :=
  let n := minutes.natAbs
  (if minutes < 0 then "-" else "+") ++ s!"{padded 2 (n / 60)}:{padded 2 (n % 60)}"

/-- A moment with a given text between date and time. -/
def Moment.text (between : String) (m : Moment) : String :=
  m.date.text ++ between ++ m.clock.text ++ (m.offset.map offsetText).getD ""

/-- A moment in universal time, to the millisecond, which is cut.  The year has no padding. -/
def Moment.stamp (m : Moment) : String :=
  let d := m.date
  s!"{d.year}-{padded 2 d.month}-{padded 2 d.day}T{m.clock.seconds}." ++
    s!"{padded 3 (m.clock.microsecond / 1000)}Z"

/-- The parts of a time span in days and seconds, each with its name, without those that are
zero. -/
def spanParts (minutes : Int) : List String :=
  let days := Int.fdiv minutes 1440
  let seconds := (minutes - days * 1440) * 60
  (if days = 0 then [] else [s!"days={days}"]) ++ (if seconds = 0 then [] else [s!"seconds={seconds}"])

def spanShown (minutes : Int) : String :=
  let parts := spanParts minutes
  let inner := if parts.isEmpty then "0" else ", ".intercalate parts
  s!"datetime.timedelta({inner})"

def Date.shown (d : Date) : String := s!"datetime.date({d.year}, {d.month}, {d.day})"

/-- A moment by its numbers; seconds and microseconds are left out when they are zero. -/
def Moment.shown (m : Moment) : String :=
  let c := m.clock
  let time := [c.hour, c.minute] ++
    (if c.microsecond ≠ 0 then [c.second, c.microsecond] else if c.second ≠ 0 then [c.second] else [])
  let zone := match m.offset with
    | none => []
    | some 0 => ["tzinfo=datetime.timezone.utc"]
    | some n => [s!"tzinfo=datetime.timezone({spanShown n})"]
  let numbers := ([m.date.year, m.date.month, m.date.day] ++ time).map toString
  let inner := ", ".intercalate (numbers ++ zone)
  s!"datetime.datetime({inner})"

def CalendarFault.message : CalendarFault → String
  | .year n => s!"year {n} is out of range"
  | .month => "month must be in 1..12"
  | .day => "day is out of range for month"
  | .hour => "hour must be in 0..23"
  | .minute => "minute must be in 0..59"
  | .second => "second must be in 0..59"
  | .offset minutes =>
    "offset must be a timedelta strictly between -timedelta(hours=24) and " ++
      s!"timedelta(hours=24), not {spanShown minutes}."
  | .notANumber => "Invalid value NaN (not a number)"
  | .beyondClocks => "timestamp out of range for platform time_t"

end TouchProbe
