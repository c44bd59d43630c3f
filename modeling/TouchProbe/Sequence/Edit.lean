import TouchProbe.Program.Reader
import TouchProbe.Sequence.ToolSize

/-! # Editing a sequence

Each edit takes a list of probe operations and gives a new one, or says why it cannot be made.
Probes and steps are addressed by id, and of several with one id the first one is meant; only
the removal of a step takes all steps with the id.

A movement edit checks its parts in a fixed order: first the side, then the probe, then the step.
-/

namespace TouchProbe

/-- The moves before a probe, or the moves after it. -/
inductive Side where
  | pre
  | post
  deriving DecidableEq, Repr

namespace Side

def name : Side → String
  | pre => "pre"
  | post => "post"

def all : List Side := [pre, post]

def ofDatum : Datum → Except Fault Side := chooseNamed all name .badSide

def moves : Side → Probe → List Step
  | pre, p => p.preMoves
  | post, p => p.postMoves

def withMoves : Side → Probe → List Step → Probe
  | pre, p, ms => { p with preMoves := ms }
  | post, p, ms => { p with postMoves := ms }

/-- The step that is added on a side when none is given: an empty relative move. -/
def usualStep (side : Side) : Step :=
  .rapid {
    axes := .values .empty
    mode := .relative
    system := .none
    description := match side with
      | pre => .text "Position for probe"
      | post => .text "Move away from surface"
    id := .made }

end Side

namespace Edit

/-- The fields of a new probe: along Y, downwards, for 25 at a feed rate of 10, with a retreat
of 1. -/
def usualProbe : ProbeFields where
  axis := some (.text "Y")
  direction := some (.int (-1))
  distance := some (decimal false 25 0)
  feedRate := some (decimal false 10 0)
  backoff := some (decimal false 1 0)
  offset := some (decimal false 0 0)

/-- Applies a change to the first member of a list that passes a test; `missing` if there is
none. -/
def changeFirst {α : Type} (test : α → Bool) (missing : Fault) (change : α → Except Fault α) :
    List α → Except Fault (List α)
  | [] => .error missing
  | a :: rest =>
    if test a then (change a).map (· :: rest)
    else (changeFirst test missing change rest).map (a :: ·)

def changeProbe (id : Datum) (change : Probe → Except Fault Probe) (ps : List Probe) :
    Except Fault (List Probe) :=
  changeFirst (·.id.isNamed id) (.unknownProbe id.shown) change ps

/-- Adds a probe at the end.  Its fields are those of a new probe, replaced by those of the
template, replaced by the given ones. -/
def addProbe (template given : ProbeFields) (ps : List Probe) : Except Fault (List Probe) := do
  return ps ++ [← Probe.build ((usualProbe.override template).override given)]

def updateProbe (id : Datum) (changes : ProbeFields) (ps : List Probe) :
    Except Fault (List Probe) :=
  changeProbe id (fun p => Probe.build (p.fields.override changes)) ps

def removeProbe (id : Datum) (ps : List Probe) : Except Fault (List Probe) :=
  if ps.any (·.id.isNamed id) then .ok (ps.eraseP (·.id.isNamed id))
  else .error (.unknownProbe id.shown)

/-- The place in a list of some length that an index means: one below zero counts from the
end. -/
def place (count : Nat) (index : Int) : Except Fault Nat :=
  if -(count : Int) ≤ index ∧ index < count then .ok (index % count).toNat
  else .error (.probeIndex (toString index) count)

def moveProbe (source destination : Int) (ps : List Probe) : Except Fault (List Probe) := do
  let i ← place ps.length source
  let j ← place ps.length destination
  let moved := (ps.drop i).take 1
  let others := ps.eraseIdx i
  return others.take j ++ moved ++ others.drop j

def isIndex (count : Nat) : Number → Bool
  | .whole n => -(count : Int) ≤ n && n < count
  | .real x => let c := Number.nearest false count 1; -c ≤ x && x < c

/-- The number that a value is, which must lie among the indices of a list of some length. -/
def indexOf (count : Nat) (d : Datum) : Except Fault Number := do
  let n ← d.toNumber
  if isIndex count n then .ok n else .error (.probeIndex d.plain count)

/-- Moves the probe at one place to another place, both given as values.  Only whole numbers are
places, but any number out of range is told as such. -/
def moveProbeBy (source destination : Datum) (ps : List Probe) : Except Fault (List Probe) := do
  match ← indexOf ps.length source, ← indexOf ps.length destination with
  | .whole i, .whole j => moveProbe i j ps
  | _, _ => throw .wrongKind

def addMovement (id : Datum) (side : Datum) (step : Option Step) (ps : List Probe) :
    Except Fault (List Probe) := do
  let side ← Side.ofDatum side
  let step := step.getD side.usualStep
  changeProbe id (fun p => .ok (side.withMoves p (side.moves p ++ [step]))) ps

/-- The fields that a step keeps when it becomes a step of another kind: its id and its
description. -/
def keptFields (s : Step) : StepFields where
  id := some s.id
  description := some s.description

/-- A step with fields replaced, and perhaps of another kind.  A new rapid move is relative and
a new pause takes a second, unless the changes say otherwise. -/
def changeStep (kind : Option Datum) (changes : StepFields) (s : Step) : Except Fault Step := do
  let kind := kind.getD (.text s.kind)
  let isRapid := kind.same (.text "rapid")
  if !isRapid && !kind.same (.text "dwell") then throw (.badStepKind kind.shown)
  match s, isRapid with
  | .rapid r, true => return .rapid (← Rapid.build (r.fields.override changes))
  | .dwell d, false => return .dwell (← Dwell.build (d.fields.override changes))
  | s, true =>
    let base := { keptFields s with mode := some (.text PositionMode.relative.name) }
    return .rapid (← Rapid.build (base.override changes))
  | s, false =>
    let base := { keptFields s with time := some (decimal false 1 0) }
    return .dwell (← Dwell.build (base.override changes))

/-- Replaces fields of a step, or makes it a step of another kind. -/
def updateMovement (id stepId : Datum) (side : Datum) (kind : Option Datum)
    (changes : StepFields) (ps : List Probe) : Except Fault (List Probe) := do
  let side ← Side.ofDatum side
  changeProbe id
    (fun p => do
      let missing := Fault.unknownStep stepId.shown side.name id.shown
      let moves ← changeFirst (·.id.isNamed stepId) missing
        (changeStep kind changes) (side.moves p)
      return side.withMoves p moves)
    ps

/-- Removes the steps with an id. -/
def removeMovement (id stepId : Datum) (side : Datum) (ps : List Probe) :
    Except Fault (List Probe) := do
  let side ← Side.ofDatum side
  changeProbe id
    (fun p =>
      if (side.moves p).any (·.id.isNamed stepId) then
        .ok (side.withMoves p ((side.moves p).filter fun s => !s.id.isNamed stepId))
      else .error (.unknownStep stepId.shown side.name id.shown))
    ps

/-! ### Settings -/

/-- Settings with another tool, whose size is computed from what was written. -/
def updateTool (input unit : Option Datum) (s : Settings) :
    Except Fault Settings := do
  let input := input.getD s.tool.input
  let unit := unit.getD (.text s.tool.unit.name)
  let size ← ToolSize.ofDatum input unit
  let tool ← Tool.build (some input) (some unit) (some (.float size))
  return { s with tool }

/-- Takes over what was read from a program: the probes, and the settings that the program has.
A number of pauses and a spindle speed count only if they are not zero. -/
def applyReading (s : Settings) (r : Program.Reading) : Settings where
  start := r.start.getD s.start
  dwells := match r.dwells with
    | some n => if n = 0 then s.dwells else .int n
    | none => s.dwells
  spindle := match r.spindle with
    | some n => if n = 0 then s.spindle else .int n
    | none => s.spindle
  units := r.units.getD s.units
  tool := s.tool
  operations := r.probes

def changedSettings (r : Program.Reading) : List String :=
  (if r.start.isSome then ["initial_position"] else []) ++
  (if r.dwells.any (· != 0) then ["dwells_before_probe"] else []) ++
  (if r.spindle.any (· != 0) then ["spindle_speed"] else []) ++
  (if r.units.isSome then ["units"] else [])

end Edit

end TouchProbe
