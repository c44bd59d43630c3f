import TouchProbe.Program.Line
import TouchProbe.Program.Runs
import TouchProbe.Sequence.Settings

/-! # Reading programs

A program is a flat list of lines; the probe sequence that it stands for is found by one pass
over them.

Moves and pauses are collected as pending.  A probe line takes the pending moves as those before
it, and opens a probe.  A run of clearing pauses, the banner of the next probe, the next probe
line or the end of the program closes the open probe, which takes the pending moves as those
after it.  The first run closes the head of the program instead: if the machine was set up
there, the moves pending at that point belong to the setup and are dropped, except those that
follow a banner.

The move right after the setting of the work origin is the retreat of the probe, if it is
relative and along the axis of the probe alone.

Reading never fails: what cannot be read is listed, and so are values that had to be assumed.
-/

namespace TouchProbe.Program

open Number

inductive Problem where
  /-- A probe line that does not name exactly one axis. -/
  | notOneAxis
  /-- A spindle speed that is beyond all floats. -/
  | infiniteSpeed
  deriving DecidableEq, Repr

/-- A problem with its line: its number, counted from one, and its text. -/
structure LineProblem where
  line : Nat
  text : List Char
  problem : Problem
  deriving DecidableEq, Repr

/-- A value that was assumed for the probe of a line. -/
inductive Assumption where
  | feedRate (line : Nat)
  | backoff (line : Nat)
  deriving DecidableEq, Repr

/-- The feed rate of a probe that names none. -/
def assumedFeedRate : Float := nearestDecimal false 10 0

/-- The retreat of a probe that has no retreat line. -/
def assumedBackoff : Float := nearestDecimal false 1 0

def Problem.message : Problem → String
  | notOneAxis => "Invalid probe command, expected exactly one axis"
  | infiniteSpeed => Fault.infiniteToInt.message

def LineProblem.message (p : LineProblem) : String :=
  s!"Error parsing line {p.line}: \"{String.ofList p.text}\" - {p.problem.message}"

def Assumption.message : Assumption → String
  | feedRate line =>
    s!"Probe on line {line} has no feed rate, using default F{writeFloat assumedFeedRate}"
  | backoff line =>
    s!"Probe on line {line} has no backoff move, using default backoff {writeFloat assumedBackoff}"

/-- A probe whose line has been read and that is not closed yet. -/
structure OpenProbe where
  axis : Axis
  forward : Bool
  distance : Float
  feedRate : Float
  /-- The number of its line, counted from one. -/
  line : Nat
  /-- The retreat, once it was read. -/
  backoff : Option Float := none
  /-- The coordinate that the surface gets, once it was read. -/
  offset : Option Float := none
  preMoves : List Step

/-- What is known after some lines of a program. -/
structure State where
  probes : List Probe := []
  current : Option OpenProbe := none
  pending : List Step := []
  /-- The length of the first run of clearing pauses. -/
  dwells : Option Nat := none
  /-- Whether the next move may be the retreat of the open probe. -/
  awaitsBackoff : Bool := false
  start : ByAxis Float := .empty
  spindle : Option Int := none
  units : Option Units := none
  problems : List LineProblem := []
  assumptions : List Assumption := []
  /-- Whether the machine has been set up. -/
  isSetUp : Bool := false
  /-- The number of moves that were pending at a banner before the first run. -/
  setupEnd : Option Nat := none

structure Reading where
  probes : List Probe
  start : Option Position
  dwells : Option Nat
  spindle : Option Int
  units : Option Units
  problems : List LineProblem
  assumptions : List Assumption

/-- The probe that an open probe becomes with the moves after it. -/
def OpenProbe.close (p : OpenProbe) (postMoves : List Step) : Probe where
  axis := p.axis
  direction := .int (if p.forward then 1 else -1)
  distance := .float p.distance
  feedRate := .float p.feedRate
  backoff := .float (p.backoff.getD assumedBackoff)
  offset := .float (p.offset.getD zero)
  preMoves := p.preMoves
  postMoves := postMoves
  id := .made

namespace State

def report (st : State) (line : Nat) (text : List Char) (problem : Problem) : State :=
  { st with problems := st.problems ++ [⟨line, text, problem⟩] }

def closeProbe (st : State) : State :=
  match st.current with
  | none => st
  | some p =>
    { st with
      probes := st.probes ++ [p.close st.pending]
      current := none
      pending := []
      awaitsBackoff := false
      assumptions :=
        if p.backoff.isSome then st.assumptions else st.assumptions ++ [.backoff p.line] }

def enterRun (st : State) (length : Nat) : State :=
  match st.dwells with
  | some _ => st.closeProbe
  | none =>
    { st with
      dwells := some length
      pending :=
        if st.isSetUp then st.pending.drop (st.setupEnd.getD st.pending.length)
        else st.pending }

/-- Reads a comment line: a banner closes the open probe, or ends the setup. -/
def readComment (st : State) (line : List Char) : State :=
  if !isPreMovesBanner line then st
  else if st.current.isSome then st.closeProbe
  else if st.dwells.isNone && st.setupEnd.isNone then
    { st with setupEnd := some st.pending.length }
  else st

/-- Reads a units command; the first one counts. -/
def readUnits (st : State) (code : List Char) : State :=
  let named : Units := if hasWord "G20".toList code then .inch else .mm
  { st with units := some (st.units.getD named) }

/-- Reads a spindle start; the first speed counts. -/
def readSpindle (st : State) (line : Nat) (text code : List Char) : State :=
  match st.spindle, speed? code with
  | none, some speed =>
    match truncate? speed with
    | some n => { st with spindle := some n }
    | none => st.report line text .infiniteSpeed
  | _, _ => st

/-- The feed rate of a probe line; a missing one and zero are no feed rates. -/
def probeFeed? (code : List Char) : Option Float :=
  (feed? code).filter fun x => !isZero x

/-- Reads a probe line: opens a probe, which takes the pending moves. -/
def readProbe (st : State) (line : Nat) (text code : List Char) : State :=
  match (axes code).entries with
  | [(axis, value)] =>
    let feed := probeFeed? code
    let noted :=
      { st with
        pending := []
        assumptions :=
          if feed.isSome then st.assumptions else st.assumptions ++ [Assumption.feedRate line] }
    { noted.closeProbe with
      current := some {
        axis
        forward := !(value < zero)
        distance := value.abs
        feedRate := feed.getD assumedFeedRate
        line
        preMoves := st.pending } }
  | _ => st.report line text .notOneAxis

def readOrigin (st : State) (code : List Char) : State :=
  match st.current with
  | none => st
  | some p =>
    match (axes code).get? p.axis with
    | none => st
    | some value =>
      { st with
        current := some { p with offset := some value.abs }
        awaitsBackoff := true }

/-- Whether a rapid move with some axes tells where the machine starts. -/
def isStart (st : State) (code : List Char) : Bool :=
  st.dwells.isNone && st.setupEnd.isNone && hasWord "G90".toList code && hasWord "G53".toList code

/-- The probe that a rapid move belongs to as its retreat, and the length of the retreat. -/
def backoff? (st : State) (code : List Char) : Option (OpenProbe × Float) :=
  match st.current, (axes code).entries with
  | some p, [(axis, value)] =>
    if st.awaitsBackoff && hasWord "G91".toList code && axis = p.axis then some (p, value.abs)
    else none
  | _, _ => none

/-- The description of a line: its comment, or one that is made for it. -/
def describe (text : List Char) (made : String) : String :=
  match comment? text with
  | some c => String.ofList c
  | none => made

def axisWords (vs : ByAxis Float) : String :=
  " ".intercalate (vs.entries.map fun e => e.1.name ++ writeFloat e.2)

def rapidStep (text code : List Char) : Step :=
  .rapid {
    axes := .values ((axes code).map .float)
    mode := modeOf code
    system := systemOf code
    description := .text <| describe text ("Rapid move to " ++ axisWords (axes code))
    id := .made }

/-- Reads a rapid move: the start of the machine, the retreat of the open probe, or a step. -/
def readRapid (st : State) (text code : List Char) : State :=
  if (axes code).isEmpty then st
  else if st.isStart code then { st with start := st.start.fill (axes code).entries }
  else
    match st.backoff? code with
    | some (p, length) =>
      { st with current := some { p with backoff := some length }, awaitsBackoff := false }
    | none => { st with pending := st.pending ++ [rapidStep text code], awaitsBackoff := false }

def dwellStep (text : List Char) (time : Float) : Step :=
  .dwell {
    time := .float time
    description := .text <| describe text s!"Dwell for {writeFloat time} seconds"
    id := .made }

def readDwell (st : State) (text code : List Char) : State :=
  match pause? code with
  | none => st
  | some time => { st with pending := st.pending ++ [dwellStep text time] }

def readCommand (st : State) (line : Nat) (text code : List Char) : State :=
  let next := match classify code with
    | .units => st.readUnits code
    | .spindle => st.readSpindle line text code
    | .probe => st.readProbe line text code
    | .origin => st.readOrigin code
    | .rapid => st.readRapid text code
    | .dwell => st.readDwell text code
    | .goHome | .other => st
  { next with isSetUp := next.isSetUp || isSetup code }

/-- What a line is to the runs of clearing pauses: the start of a run of some length, a member
of a run, or neither. -/
inductive Role where
  | starts (length : Nat)
  | member
  | free
  deriving DecidableEq, Repr

def roleOf (rs : List (List Nat)) (index : Nat) : Role :=
  match (Program.starts rs).lookup index with
  | some length => .starts length
  | none => if (members rs).contains index then .member else .free

def readLine (st : State) (index : Nat) (role : Role) (line : List Char) : State :=
  let text := Text.trim line
  if text.isEmpty then st
  else if isComment text then st.readComment text
  else
    match role with
    | .starts length => st.enterRun length
    | .member => st
    | .free => if (code text).isEmpty then st else st.readCommand (index + 1) text (code text)

/-- The start of the machine, once an axis of it is known. -/
def startPosition (vs : ByAxis Float) : Option Position :=
  if vs.isEmpty then none
  else
    let coordinate (a : Axis) : Datum := .float ((vs.get? a).getD zero)
    some ⟨coordinate .x, coordinate .y, coordinate .z⟩

def reading (st : State) : Reading where
  probes := st.probes
  start := startPosition st.start
  dwells := st.dwells
  spindle := st.spindle
  units := st.units
  problems := st.problems
  assumptions := st.assumptions

end State

def linesOf (text : String) : List (List Char) := Text.splitOn '\n' text.toList

/-- The state after a list of lines, before the last probe is closed. -/
def readLines (lines : List (List Char)) : State :=
  let rs := runs lines
  lines.zipIdx.foldl (fun st l => st.readLine l.2 (State.roleOf rs l.2) l.1) {}

def read (text : String) : Reading := (readLines (linesOf text)).closeProbe.reading

end TouchProbe.Program
