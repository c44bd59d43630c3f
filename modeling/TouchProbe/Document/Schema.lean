import TouchProbe.Document.Value
import TouchProbe.Text.Letters

/-! # Sequence documents

A sequence document holds the settings and the probe operations of one sequence.  `check` reads
it from a data tree and lists everything that is wrong with it, in the order of the fields.
Fields that a record does not have are passed over.
-/

namespace TouchProbe.Document

/-- A movement step of a document, which may have no id. -/
inductive StoredStep where
  | rapid (id : Option String) (description : String) (axes : ByAxis Float)
    (mode : PositionMode) (system : CoordinateSystem)
  | dwell (id : Option String) (description : String) (time : Float)

structure StoredProbe where
  id : Option String
  axis : Axis
  direction : Int
  distance : Float
  feedRate : Float
  backoff : Float
  offset : Float
  preMoves : List StoredStep
  postMoves : List StoredStep

structure SequenceFile where
  /-- The settings, without operations. -/
  settings : Settings
  operations : List StoredProbe

def formatName : String := "sequence.v1"

/-! ### Movement steps -/

def keyPlace : Datum → Place
  | .text s => .field (shownText s)
  | .int n => if isBeyondWord n then .field (shownValue Datum.shown (.int n)) else .index n
  | .bool b => .index (if b then 1 else 0)
  | d => .field (shownValue Datum.shown d)

def entryKey (key : Datum) : Validated String :=
  ((text key).within (.field "[key]")).within (keyPlace key)

def floatEntries : Record.Entries → Validated (List (String × Float))
  | [] => .valid []
  | e :: rest =>
    (fun k x others => (k, x) :: others) <$> entryKey e.1 <*>
      (float e.2).within (keyPlace e.1) <*> floatEntries rest

/-- The axis that a key names, in either case. -/
def keyAxis (key : String) : Validated Axis :=
  match Axis.ofName? (String.ofList (Text.upper key.toList)) with
  | some a => .valid a
  | none => .breach (.rule s!"Axis must be X, Y or Z, got '{shownText key}'")

/-- Values by axis from entries; the first key that names no axis is the one that counts. -/
def axisEntries : List (String × Float) → Validated (List (Axis × Float))
  | [] => .valid []
  | e :: rest =>
    (keyAxis e.1).andThen fun a => (axisEntries rest).map ((a, e.2) :: ·)

def axes (d : Datum) : Validated (ByAxis Float) :=
  match d.bare with
  | .mapping entries =>
    (floatEntries entries).andThen fun es => (axisEntries es).map ByAxis.ofList
  | _ => .breach .notMapping

def rapid (entries : Record.Entries) : Validated StoredStep :=
  StoredStep.rapid <$> optional "id" none optionalText entries
    <*> optional "description" "" text entries
    <*> optional "axes_values" .empty axes entries
    <*> optional "position_mode" .none (oneOf PositionMode.all PositionMode.name) entries
    <*> optional "coordinate_system" .none (oneOf CoordinateSystem.all CoordinateSystem.name) entries

def dwell (entries : Record.Entries) : Validated StoredStep :=
  StoredStep.dwell <$> optional "id" none optionalText entries
    <*> optional "description" "" text entries
    <*> required "dwell_time" nonNegative entries

def step (d : Datum) : Validated StoredStep :=
  match d.bare with
  | .mapping entries =>
    match Record.get? entries "type" with
    | none => .breach .noKind
    | some (.text "rapid") => (rapid entries).within (.field "rapid")
    | some (.text "dwell") => (dwell entries).within (.field "dwell")
    | some d => .breach (.unknownKind (shownValue Datum.plain d))
  | _ => .breach .noFields

/-! ### Probe operations -/

/-- An axis, in either case. -/
def axis (d : Datum) : Validated Axis :=
  let upper := match d with
    | .text s => Datum.text (String.ofList (Text.upper s.toList))
    | d => d
  oneOf Axis.all Axis.name upper

def probe : Datum → Validated StoredProbe :=
  record "ProbeOperationV1" fun entries =>
    StoredProbe.mk <$> optional "id" none optionalText entries
      <*> required "axis" axis entries
      <*> required "direction" direction entries
      <*> required "distance" nonNegative entries
      <*> required "feed_rate" positive entries
      <*> required "backoff_distance" nonNegative entries
      <*> optional "wcs_offset" Number.zero float entries
      <*> optional "pre_moves" [] (list step) entries
      <*> optional "post_moves" [] (list step) entries

/-! ### Settings -/

def position : Datum → Validated Position :=
  record "PositionV1" fun entries =>
    let coordinate (name : String) := optional name Number.zero float entries
    (fun x y z => Position.mk (.float x) (.float y) (.float z)) <$> coordinate "x"
      <*> coordinate "y" <*> coordinate "z"

def tool : Datum → Validated Tool :=
  record "EndmillSizeV1" fun entries =>
    Tool.mk <$> optional "input" Tool.default.input (fun d => (text d).map .text) entries
      <*> optional "unit" Tool.default.unit (oneOf ToolUnit.all ToolUnit.name) entries
      <*> optional "size_in_mm" Tool.default.size (fun d => (nonNegative d).map .float) entries

def settings : Datum → Validated Settings :=
  record "SequenceSettingsV1" fun entries =>
    let usual := Settings.default
    (fun start dwells spindle units tool => ⟨start, dwells, spindle, units, tool, []⟩)
      <$> optional "initial_position" usual.start position entries
      <*> optional "dwells_before_probe" usual.dwells (fun d => (count d).map .int) entries
      <*> optional "spindle_speed" usual.spindle (fun d => (nonNegative d).map .float) entries
      <*> optional "units" usual.units (oneOf Units.all Units.name) entries
      <*> optional "endmill_size" usual.tool tool entries

/-! ### The whole -/

/-- The version of a document, which must be the one that is known. -/
def format (d : Datum) : Validated Unit :=
  (text d).andThen fun s =>
    if s == formatName then .valid ()
    else .breach (.rule s!"Expected schema '{formatName}', got '{shownText s}'")

/-- The version field: it has two names, and the first of them comes first. -/
def formatField (entries : Record.Entries) : Validated Unit :=
  match Record.get? entries "schema" with
  | some d => (format d).within (.field "schema")
  | none => optional "schema_version" () format entries

def sequenceFile : Datum → Validated SequenceFile :=
  record "SequenceFileV1" fun entries =>
    (fun _ settings operations => ⟨settings, operations⟩) <$> formatField entries
      <*> optional "settings" .default settings entries
      <*> optional "operations" [] (list probe) entries

def check (source : String) (d : Datum) : Except Fault SequenceFile :=
  match sequenceFile d with
  | .valid file => .ok file
  | .invalid violations => .error (.invalidSequence source violations)

end TouchProbe.Document
