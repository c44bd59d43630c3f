import TouchProbe.FileTree.Load
import TouchProbe.Sequence.Edit

/-! # Defaults

The settings that a new sequence starts from and the template for new probes, from a file or as
they come with the program.

A file is read in two steps.  `Defaults.ofDatum` takes the values out of it, `Defaults.check`
then tests their ranges.
-/

namespace TouchProbe

structure ProbeTemplate where
  axis : Axis
  direction : Int
  distance : Float
  feedRate : Float
  backoff : Float
  offset : Float

/-- The settings of new sequences and the fields of new probes. -/
structure Defaults where
  settings : Settings
  /-- The axis of the template as it was written, in upper case. -/
  axisName : String
  direction : Int
  distance : Float
  feedRate : Float
  backoff : Float
  offset : Float

/-- Defaults that passed all tests. -/
structure Config where
  settings : Settings
  template : ProbeTemplate

def ProbeTemplate.fields (t : ProbeTemplate) : ProbeFields where
  axis := some (.text t.axis.name)
  direction := some (.int t.direction)
  distance := some (.float t.distance)
  feedRate := some (.float t.feedRate)
  backoff := some (.float t.backoff)
  offset := some (.float t.offset)

def ProbeTemplate.datum (t : ProbeTemplate) : Datum :=
  .record [
    ("axis", .text t.axis.name),
    ("direction", .int t.direction),
    ("distance", .float t.distance),
    ("feed_rate", .float t.feedRate),
    ("backoff_distance", .float t.backoff),
    ("wcs_offset", .float t.offset)]

namespace Defaults

/-- What a value that must be a mapping has for a key. -/
def need (d : Datum) (key : String) : Except Fault Datum :=
  match d.bare with
  | .mapping entries => match Record.get? entries key with
    | some v => .ok v
    | none => .error (.missingConfigKey key)
  | _ => .error .wrongKind

/-- What a mapping has for a key, or what stands for it. -/
def getOr (d : Datum) (key : String) (missing : Datum) : Except Fault Datum :=
  match d.bare with
  | .mapping entries => .ok ((Record.get? entries key).getD missing)
  | _ => .error .noSuchMember

/-- The tool in the settings: any value is taken as it would be shown. -/
def tool (d : Datum) : Except Fault (String × String) := do
  let input ← (← getOr d "input" Tool.default.input).write
  let unit ← (← getOr d "unit" (.text Tool.default.unit.name)).write
  return (input, unit)

def settingsOf (d : Datum) : Except Fault Settings := do
  let start ← need d "initial_position"
  let (input, unit) ← tool (← getOr d "endmill_size" (.mapping []))
  let x ← (← need start "x").toFloat
  let y ← (← need start "y").toFloat
  let z ← (← need start "z").toFloat
  let dwells ← (← need d "dwells_before_probe").toInt
  let spindle ← (← need d "spindle_speed").toFloat
  let units ← (← getOr d "units" (.text Units.mm.name)).write
  let size := Datum.float (ToolSize.parse input unit)
  let tool ← Tool.build (some (.text input)) (some (.text unit)) (some size)
  let units ← Units.ofDatum (.text units)
  return {
    start := ⟨.float x, .float y, .float z⟩
    dwells := .int dwells
    spindle := .float spindle
    units
    tool
    operations := [] }

/-- The defaults that a value holds, before their ranges are tested. -/
def values (d : Datum) : Except Fault Defaults := do
  let settings ← settingsOf (← need d "settings")
  let t ← need d "probe_template"
  let axis ← (← need t "axis").write
  let direction ← (← need t "direction").toInt
  let distance ← (← need t "distance").toFloat
  let feedRate ← (← need t "feed_rate").toFloat
  let backoff ← (← need t "backoff_distance").toFloat
  let offset ← (← getOr t "wcs_offset" (.float Number.zero)).toFloat
  return {
    settings
    axisName := String.ofList (Text.upper axis.toList)
    direction
    distance
    feedRate
    backoff
    offset }

/-- Whether a fault is one that makes a value no number of its kind. -/
def isBadValue : Fault → Bool
  | .missingConfigKey _ | .noSuchMember | .beyondFloat | .infiniteToInt => false
  | _ => true

/-- The defaults that a value holds.  Faults of single values are told as such. -/
def ofDatum (d : Datum) : Except Fault Defaults :=
  (values d).mapError fun f => if isBadValue f then .badConfigValue f else f

/-- Refuses a value that is out of range and that the message shows. -/
def refuse (d : Datum) (fault : String → Fault) : Except Fault Unit := do
  throw (fault (← d.write))

def checkLength (name : String) (x : Float) : Except Fault Unit :=
  if x ≤ Number.zero then
    .error (.notPositive s!"probe_template.{name}" (Scalar.float x).plain)
  else .ok ()

def checkDwells (d : Defaults) : Except Fault Unit := do
  if ← d.settings.dwells.isNegative then
    refuse d.settings.dwells (.negative "dwells_before_probe")

def checkOthers (d : Defaults) : Except Fault Config := do
  if ← d.settings.spindle.isNegative then
    refuse d.settings.spindle (.negative "spindle_speed")
  match Axis.ofName? d.axisName with
  | none =>
    throw (.notOneOf "probe_template.axis" (Axis.all.map Axis.name) (Text.quote d.axisName))
  | some axis =>
    if d.direction != 1 && d.direction != -1 then
      refuse (.int d.direction) (.badDirection "probe_template.direction")
    checkLength "distance" d.distance
    checkLength "feed_rate" d.feedRate
    checkLength "backoff_distance" d.backoff
    return {
      settings := d.settings
      template := ⟨axis, d.direction, d.distance, d.feedRate, d.backoff, d.offset⟩ }

/-- A fault of the tests of ranges.  A value that is too long to be shown is told as such. -/
def rangeFault : Fault → Fault
  | .tooLongToWrite => .tooLongToWrite
  | f => .configOutOfRange f

def check (d : Defaults) : Except Fault Config :=
  (d.checkDwells >>= fun _ => d.checkOthers).mapError rangeFault

/-- Whether the number of pauses is one, which makes no run that a reader of the program could
find. -/
def hasLonePause (d : Defaults) : Bool := d.settings.dwells.same (.int 1)

end Defaults

namespace Config

def packaged : Config where
  settings := { Settings.default with spindle := decimal false 5000 0 }
  template := {
    axis := .y
    direction := -1
    distance := Number.nearestDecimal false 25 0
    feedRate := Number.nearestDecimal false 10 0
    backoff := Number.nearestDecimal false 1 0
    offset := Number.zero }

def loadDatum (t : FileTree) (a : Address) : Except Fault Datum :=
  match t.loadYaml a with
  | .ok .null => .error (.emptyConfig a.text)
  | .ok d => .ok d
  | .error (.badYaml path) => .error (.badConfigYaml path)
  | .error f => .error f

def load (t : FileTree) (a : Address) : Except Fault Config := do
  if !t.has a then throw (.missingFile "Configuration file" a.text)
  (← Defaults.ofDatum (← loadDatum t a)).check

end Config

end TouchProbe
