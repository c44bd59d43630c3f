import TouchProbe.Sequence.Settings

/-! # Sequences as records

Steps, probes and settings from data trees with named fields, for callers that hold them as
such.  A field that the thing does not have makes its building fail, as does a missing field
that has no usual value; a field that is given is checked by the thing itself.

Parts are built before the whole, so a fault in a part comes first.
-/

namespace TouchProbe.Record

abbrev Entries := List (Datum × Datum)

/-- The entries of a value that must be a mapping. -/
def entriesOf : Datum → Except Fault Entries
  | .mapping entries => .ok entries
  | _ => .error .wrongKind

/-- The members of a value that must be a list. -/
def membersOf : Datum → Except Fault (List Datum)
  | .list xs => .ok xs
  | _ => .error .wrongKind

def get? (entries : Entries) (name : String) : Option Datum :=
  Datum.lookup? entries (.text name)

def hasOther (names : List String) (entries : Entries) : Bool :=
  entries.any fun e => !names.any fun name => e.1.same (.text name)

def without (name : String) (entries : Entries) : Entries :=
  entries.filter fun e => !e.1.same (.text name)

/-- The entries of changes, which must not have the names by which the change itself is told where
it goes, and whose keys must be texts. -/
def changes (taken : List String) (d : Datum) : Except Fault Entries := do
  let entries ← entriesOf d
  let isName : Datum × Datum → Bool
    | (.text name, _) => !taken.contains name
    | _ => false
  if entries.all isName then return entries else throw .wrongKind

def stepFields (entries : Entries) : StepFields where
  axes := get? entries "axes_values"
  mode := get? entries "position_mode"
  system := get? entries "coordinate_system"
  time := get? entries "dwell_time"
  description := get? entries "description"
  id := (get? entries "id").map .given
  unknown := hasOther
    ["axes_values", "position_mode", "coordinate_system", "dwell_time", "description", "id"] entries

def step (d : Datum) : Except Fault Step := do
  let entries ← entriesOf d
  let fields := stepFields (without "type" entries)
  match get? entries "type" with
  | some (.text "rapid") => return .rapid (← Rapid.build fields)
  | some (.text "dwell") => return .dwell (← Dwell.build fields)
  | _ => throw .wrongKind

def steps (d : Datum) : Except Fault (List Step) := do (← membersOf d).mapM step

def part {α : Type} (read : Datum → Except Fault α) (entries : Entries) (name : String) :
    Except Fault (Option α) :=
  match get? entries name with
  | some d => (read d).map some
  | none => .ok none

def probeFields (entries : Entries) : Except Fault ProbeFields := do
  let preMoves ← part steps entries "pre_moves"
  let postMoves ← part steps entries "post_moves"
  return {
    axis := get? entries "axis"
    direction := get? entries "direction"
    distance := get? entries "distance"
    feedRate := get? entries "feed_rate"
    backoff := get? entries "backoff_distance"
    offset := get? entries "wcs_offset"
    preMoves
    postMoves
    id := (get? entries "id").map .given
    unknown := hasOther
      ["axis", "direction", "distance", "feed_rate", "backoff_distance", "wcs_offset",
        "pre_moves", "post_moves", "id"] entries }

def probe (d : Datum) : Except Fault Probe := do Probe.build (← probeFields (← entriesOf d))

def probes (d : Datum) : Except Fault (List Probe) := do (← membersOf d).mapM probe

def position (d : Datum) : Except Fault Position := do
  let entries ← entriesOf d
  if hasOther ["x", "y", "z"] entries then throw .wrongKind
  return .ofFields (get? entries "x") (get? entries "y") (get? entries "z")

def tool (d : Datum) : Except Fault Tool := do
  let entries ← entriesOf d
  if hasOther ["input", "unit", "size_in_mm"] entries then throw .wrongKind
  Tool.build (get? entries "input") (get? entries "unit") (get? entries "size_in_mm")

/-- Settings; the absent value stands for those of a new sequence. -/
def settings (d : Datum) : Except Fault Settings :=
  match d with
  | .null => .ok .default
  | d => do
    let entries ← entriesOf d
    let usual := Settings.default
    let start ← part position entries "initial_position"
    let tool ← part tool entries "endmill_size"
    let operations ← part probes entries "operations"
    if hasOther
        ["initial_position", "dwells_before_probe", "spindle_speed", "units", "endmill_size",
          "operations"] entries then
      throw .wrongKind
    let units ← Units.ofDatum ((get? entries "units").getD (.text usual.units.name))
    return {
      start := start.getD usual.start
      dwells := (get? entries "dwells_before_probe").getD usual.dwells
      spindle := (get? entries "spindle_speed").getD usual.spindle
      units
      tool := tool.getD usual.tool
      operations := operations.getD [] }

end TouchProbe.Record
