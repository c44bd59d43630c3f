import TouchProbe.Document.Schema

/-! # Sequences and their documents

A sequence as a document and back.  Numbers become floats on the way, except the number of
pauses, which becomes whole, and direction and spindle speed, which stay as they are.  What a
document leaves without an id gets a new one.
-/

namespace TouchProbe.Document

/-! ### From a sequence to its document -/

def floatDatum (d : Datum) : Except Fault Datum := d.toFloat.map .float

def axesDatum (vs : AxisValues) : Except Fault Datum := do
  return .mapping (← vs.entries.mapM fun e => return (.text e.1.name, ← floatDatum e.2))

def stepDatum : Step → Except Fault Datum
  | .rapid r => do
    return .record [
      ("type", .text "rapid"),
      ("id", r.id.datum unnamedStep),
      ("description", r.description),
      ("axes_values", ← axesDatum (← r.axes.toValues)),
      ("position_mode", .text r.mode.name),
      ("coordinate_system", .text r.system.name)]
  | .dwell d => do
    return .record [
      ("type", .text "dwell"),
      ("id", d.id.datum unnamedStep),
      ("description", d.description),
      ("dwell_time", ← floatDatum (.scalar d.time))]

def probeDatum (p : Probe) : Except Fault Datum := do
  return .record [
    ("id", p.id.datum unnamedProbe),
    ("axis", .text p.axis.name),
    ("direction", .scalar p.direction),
    ("distance", ← floatDatum (.scalar p.distance)),
    ("feed_rate", ← floatDatum p.feedRate),
    ("backoff_distance", ← floatDatum (.scalar p.backoff)),
    ("wcs_offset", ← floatDatum p.offset),
    ("pre_moves", .list (← p.preMoves.mapM stepDatum)),
    ("post_moves", .list (← p.postMoves.mapM stepDatum))]

def settingsDatum (s : Settings) : Except Fault Datum := do
  return .record [
    ("initial_position", .record [
      ("x", ← floatDatum s.start.x), ("y", ← floatDatum s.start.y),
      ("z", ← floatDatum s.start.z)]),
    ("dwells_before_probe", .int (← s.dwells.toInt)),
    ("spindle_speed", s.spindle),
    ("units", .text s.units.name),
    ("endmill_size", .record [
      ("input", s.tool.input), ("unit", .text s.tool.unit.name),
      ("size_in_mm", ← floatDatum s.tool.size)])]

def ofSequence (operations : List Probe) (settings : Settings) : Except Fault Datum := do
  return .record [
    ("schema", .text formatName),
    ("settings", ← settingsDatum settings),
    ("operations", .list (← operations.mapM probeDatum))]

/-! ### From a document to its sequence -/

/-- An id that is there and not empty, or a new one. -/
def idOf : Option String → Ident
  | some id => if id.isEmpty then .made else .given (.text id)
  | none => .made

def StoredStep.build : StoredStep → Except Fault Step
  | rapid id description axes mode system => do
    return .rapid (← Rapid.build {
      axes := some (.mapping (axes.entries.map fun e => (.text e.1.name, .float e.2)))
      mode := some (.text mode.name)
      system := some (.text system.name)
      description := some (.text description)
      id := some (idOf id) })
  | dwell id description time => do
    return .dwell (← Dwell.build {
      time := some (.float time)
      description := some (.text description)
      id := some (idOf id) })

/-- The probe operation that a document holds, built from its fields after its moves. -/
def StoredProbe.build (p : StoredProbe) : Except Fault Probe := do
  let preMoves ← p.preMoves.mapM StoredStep.build
  let postMoves ← p.postMoves.mapM StoredStep.build
  Probe.build {
    axis := some (.text p.axis.name)
    direction := some (.int p.direction)
    distance := some (.float p.distance)
    feedRate := some (.float p.feedRate)
    backoff := some (.float p.backoff)
    offset := some (.float p.offset)
    preMoves := some preMoves
    postMoves := some postMoves
    id := some (idOf p.id) }

/-- The settings that a document holds, with its operations, which are built first. -/
def SequenceFile.build (f : SequenceFile) : Except Fault Settings := do
  let operations ← f.operations.mapM StoredProbe.build
  let tool := f.settings.tool
  let tool ← Tool.build (some tool.input) (some (.text tool.unit.name)) (some tool.size)
  let units ← Units.ofDatum (.text f.settings.units.name)
  return { f.settings with tool, units, operations }

def toSequence (source : String) (d : Datum) : Except Fault Settings := do
  (← check source d).build

/-! ### A document as it was checked -/

def idDatum : Option String → Datum
  | some id => .text id
  | none => .null

def StoredStep.datum : StoredStep → Datum
  | rapid id description axes mode system => .record [
      ("type", .text "rapid"),
      ("id", idDatum id),
      ("description", .text description),
      ("axes_values", .mapping (axes.entries.map fun e => (.text e.1.name, .float e.2))),
      ("position_mode", .text mode.name),
      ("coordinate_system", .text system.name)]
  | dwell id description time => .record [
      ("type", .text "dwell"),
      ("id", idDatum id),
      ("description", .text description),
      ("dwell_time", .float time)]

def StoredProbe.datum (p : StoredProbe) : Datum :=
  .record [
    ("id", idDatum p.id),
    ("axis", .text p.axis.name),
    ("direction", .int p.direction),
    ("distance", .float p.distance),
    ("feed_rate", .float p.feedRate),
    ("backoff_distance", .float p.backoff),
    ("wcs_offset", .float p.offset),
    ("pre_moves", .list (p.preMoves.map StoredStep.datum)),
    ("post_moves", .list (p.postMoves.map StoredStep.datum))]

def SequenceFile.datum (f : SequenceFile) : Except Fault Datum := do
  return .record [
    ("schema", .text formatName),
    ("settings", ← settingsDatum f.settings),
    ("operations", .list (f.operations.map StoredProbe.datum))]

end TouchProbe.Document
