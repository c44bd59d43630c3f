import TouchProbe.Program.Line
import TouchProbe.Sequence.Settings

/-! # Writing programs

A probe sequence as a program.  The head sets the units, drives the machine to its start, Z
first so that the tool is clear of the stock before it travels, starts the spindle and turns to
incremental moves.  Each probe then has its banner, the moves before it, the pauses that empty
the motion buffer, the probe itself with the setting of the work origin and the retreat, and the
moves after it.  The foot returns to the origin and stops the spindle.

A program is a list of lines.  Writing fails only where a value is given that is no number.
-/

namespace TouchProbe.Program

/-! ### Movement steps -/

def modeWord : PositionMode → List String
  | .relative => ["G91"]
  | .absolute => ["G90"]
  | .none => []

def systemWord : CoordinateSystem → List String
  | .machine => ["G53"]
  | .wcs => ["G54"]
  | .none => []

/-- The words of values by axis.  Values that are no numbers are left out. -/
def axisWords (vs : AxisValues) : Except Fault (List String) := do
  let numbers := vs.entries.filter fun e => e.2.toNumber.isOk
  numbers.mapM fun e => return e.1.name ++ (← writeNumber e.2)

/-- The line of a movement step.  A rapid move without axis words and a pause without a time
have none. -/
def stepLine? : Step → Except Fault (Option Line)
  | .rapid r => do
    let words ← axisWords (← r.axes.toValues)
    if words.isEmpty then return none
    let code := " ".intercalate ("G0" :: modeWord r.mode ++ systemWord r.system ++ words)
    return some (.command code (commentOf r.description))
  | .dwell d => do
    if !d.time.isTruthy then return none
    let code := s!"G4 P{← writeNumber (.scalar d.time)}"
    return some (.command code (commentOf d.description))

/-- The lines of movement steps under a banner; no steps have no banner. -/
def movesLines (moves : List Step) (banner : String) : Except Fault (List Line) := do
  if moves.isEmpty then return []
  let lines ← moves.mapM stepLine?
  return .banner banner :: lines.filterMap id ++ [.blank]

/-! ### Head and foot -/

def startLine (start : Position) (a : Axis) : Except Fault Line := do
  let value ← writeNumber (start.get a)
  return .command s!"G90 G53 G0 {a.name}{value}"
    s!"Absolute move in machine coordinates to {a.name}"

def unitsLine : Units → Line
  | .mm => .command "G21" "Set units to millimeters"
  | .inch => .command "G20" "Set units to inches"

/-- The order in which the axes are driven to their start. -/
def startOrder : List Axis := [.z, .y, .x]

def headLines (settings : Settings) : Except Fault (List Line) := do
  let start ← startOrder.mapM (startLine settings.start)
  let speed ← writeNumber settings.spindle
  return unitsLine settings.units :: start ++ [
    .blank,
    .command s!"S{speed} M4" s!"Start spindle in reverse at {speed} RPM",
    .command "G4 P3" "Dwell for 3 seconds to let spindle stabilize",
    .blank,
    .command "G91" "Set to incremental positioning mode",
    .blank]

def footLines : List Line :=
  [.command "G0 G54 G90 X0Y0" "Return to origin", .command "S0" "Stop spindle"]

/-! ### Probes -/

/-- The number of pauses that a value asks for: none if it is below zero. -/
def pauseCount (d : Datum) : Except Fault Nat :=
  match d with
  | .bool b => .ok (if b then 1 else 0)
  | .int n => .ok n.toNat
  | _ => .error .wrongKind

/-- One of the pauses that empty the motion buffer. -/
def clearingLine : Line := .command "G4 P0.01" "Empty Buffer"

def probeLines (p : Probe) : Except Fault (List Line) := do
  let sign := if p.isForward then "" else "-"
  let a := p.axis.name
  let distance ← writeNumber (.scalar p.distance)
  let feedRate ← writeNumber p.feedRate
  let offset ← writeNumber p.offset
  let backoff ← writeNumber (.scalar p.backoff)
  return [
    .command s!"G38.2 {a}{sign}{distance} F{feedRate}" s!"Probe along {a}{sign} axis",
    .command s!"G10 L20 P1 {a}{offset}" s!"Set WCS G54 {a} origin",
    .command s!"G0 G91 {a}{backoff}" "Back off from surface",
    .blank]

/-- The lines of one probe operation, given its number and the number of clearing pauses. -/
def operationLines (dwells : Datum) (number : Nat) (p : Probe) : Except Fault (List Line) := do
  let preMoves ← movesLines p.preMoves s!"Pre-moves for Probe Operation {number}"
  let count ← pauseCount dwells
  let probe ← probeLines p
  let postMoves ← movesLines p.postMoves s!"Post-moves for Probe Operation {number}"
  return .banner s!"=== Probe Operation {number}: {p.axis.name} Axis ===" :: preMoves ++
    List.replicate count clearingLine ++ .blank :: probe ++ postMoves ++ [.blank]

def lines (operations : List Probe) (settings : Settings) : Except Fault (List Line) := do
  let head ← headLines settings
  let middle ← operations.zipIdx.mapM fun p => operationLines settings.dwells (p.2 + 1) p.1
  return head ++ middle.flatten ++ footLines

def write (operations : List Probe) (settings : Settings) : Except Fault String :=
  (lines operations settings).map textOf

/-- The text of the line of one movement step, empty for a step without one. -/
def writeStep (step : Step) : Except Fault String := do
  return textOf (← stepLine? step).toList

end TouchProbe.Program
