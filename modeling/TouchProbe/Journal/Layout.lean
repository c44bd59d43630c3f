import TouchProbe.Journal.Json
import TouchProbe.Text.Letters

/-! # Layouts of notes

A note says what happened and how much it matters.  It becomes one line for people, with bars
between its parts, or one JSON object for programs.  Both show the fields of the context; in a
JSON object they take the place of members of the same name.
-/

namespace TouchProbe

abbrev Level := Int

namespace Level

def debug : Level := 10

def info : Level := 20

def warning : Level := 30

def error : Level := 40

def critical : Level := 50

def names : List (Level × String) := [
  (critical, "CRITICAL"), (error, "ERROR"), (warning, "WARNING"), (info, "INFO"),
  (debug, "DEBUG"), (0, "NOTSET")]

/-- Second names of levels. -/
def otherNames : List (Level × String) := [(critical, "FATAL"), (warning, "WARN")]

/-- The name of a level; one without a name is told by its number. -/
def name (level : Level) : String :=
  (names.lookup level).getD s!"Level {level}"

/-- The level that a text names in letters of either case. -/
def ofName? (s : String) : Option Level :=
  let name := String.ofList (Text.upper s.toList)
  ((names ++ otherNames).find? fun e => e.2 == name).map (·.1)

def ofDatum (d : Datum) : Except Fault Level := do
  let s ← d.toText
  match ofName? s with
  | some level => return level
  | none => throw (.badLogLevel s)

/-- What a level that is given as a value is called: by its name, or by the value if it has none.
For a name stands the level that has it. -/
def labelOf (d : Datum) : Except Fault Datum := do
  match d.bare, names.find? (d.same <| .int ·.1) with
  | .list _, _ | .set _, _ | .mapping _, _ => throw .wrongKind
  | _, some e => return .text e.2
  | .text s, none =>
    match (names ++ otherNames).find? (·.2 == s) with
    | some e => return .int e.1
    | none => return .text s!"Level {s}"
  | _, none => return .text ("Level " ++ (← d.write))

/-- What switches a terminal to the colour of a level. -/
def colour (level : Level) : String :=
  if level = debug then "\x1b[36m"
  else if level = info then "\x1b[32m"
  else if level = warning then "\x1b[33m"
  else if level = error then "\x1b[31m"
  else if level = critical then "\x1b[35m"
  else ""

def usualColour : String := "\x1b[0m"

def labelColour (label : Datum) : String :=
  ((names.find? (label.same <| .text ·.2)).map (colour ·.1)).getD ""

/-- What a level is called, in a column of eight characters. -/
def column (isColoured : Bool) (label : Datum) : String :=
  let name := label.plain
  let text := name ++ String.ofList (List.replicate (8 - name.length) ' ')
  if isColoured then labelColour label ++ text ++ usualColour else text

end Level

structure Note where
  /-- The part of the program that says it. -/
  source : Datum
  level : Level
  /-- What its level is called. -/
  label : Datum := .text level.name
  text : String
  /-- The error behind it. -/
  cause : Option String := none

/-- A note whose parts are given as values.  Without a source it is the whole program that says
it. -/
def Note.ofData (source level text : Datum) : Except Fault Note := do
  let label ← Level.labelOf level
  let note (n : Level) : Note :=
    { source := if source.isTruthy then source else .text "root", level := n, label,
      text := text.plain }
  match (note 0).source, level with
  | .text _, .int n => return note n
  | .text _, .bool b => return note (if b then 1 else 0)
  | _, _ => throw .wrongKind

/-- Named values that are added to all notes. -/
abbrev Fields := List (String × Datum)

namespace Fields

/-- Fields with one more; a field of the same name gives its place to it. -/
def set : Fields → String → Datum → Fields
  | [], name, value => [(name, value)]
  | (n, v) :: rest, name, value =>
    if n = name then (name, value) :: rest else (n, v) :: set rest name value

def setAll (fs others : Fields) : Fields := others.foldl (fun fs f => fs.set f.1 f.2) fs

def without (fs : Fields) (isNamed : String → Bool) : Fields := fs.filter fun f => !isNamed f.1

/-- The fields that a value holds: a mapping whose keys are texts. -/
def ofDatum (d : Datum) : Except Fault Fields :=
  match d with
  | .mapping entries => entries.mapM fun e => match e.1 with
    | .text name => .ok (name, e.2)
    | _ => .error .wrongKind
  | _ => .error .wrongKind

def text (fs : Fields) : String := " ".intercalate (fs.map fun f => f.1 ++ "=" ++ f.2.plain)

end Fields

def momentOf (seconds : Datum) : Except Fault Moment := do
  match ← seconds.toNumber with
  | .whole n =>
    if 2 ^ 63 ≤ n.natAbs then throw (.calendar .beyondClocks)
    (Calendar.ofMicroseconds (n * 1000000)).mapError .calendar
  | .real x => (Calendar.ofSeconds x).mapError .calendar

inductive Layout where
  | human
  | json
  deriving DecidableEq, Repr

namespace Layout

def ofDatum : Datum → Except Fault Layout
  | .text "human" => .ok human
  | .text "json" => .ok json
  | d => .error (.badLogMode d.shown)

def time : Layout → Moment → String
  | human, m => m.stamp
  | json, m => m.text "T"

/-- A note without time, level and context. -/
def bare (n : Note) : String := n.text ++ (n.cause.map ("\n" ++ ·)).getD ""

def members (process : Nat) (time : String) (context : Fields) (n : Note) : Fields :=
  let own : Fields := [
    ("t", .text time), ("lvl", n.label), ("name", n.source),
    ("pid", .int process), ("msg", .text n.text)]
  let all := own.setAll context
  match n.cause with
  | some cause => all.set "exc" (.text cause)
  | none => all

def write (layout : Layout) (isColoured : Bool) (process : Nat) (time : String)
    (context : Fields) (n : Note) : Except Fault String :=
  match layout with
  | human =>
    let fields := if context.isEmpty then [] else [context.text]
    .ok (" | ".intercalate ([time, Level.column isColoured n.label] ++ fields ++ [bare n]))
  | json => Json.write (Datum.record (members process time context n))

end Layout

end TouchProbe
