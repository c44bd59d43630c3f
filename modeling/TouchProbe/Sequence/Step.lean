import TouchProbe.Sequence.Axis
import TouchProbe.Sequence.Ident

/-! # Movement steps

What a machine does between two probes: a rapid move along some axes, or a pause.  A rapid move
has no pause time, and a pause has neither axes nor modes.

Steps are built from named fields by `Rapid.build` and `Dwell.build`, which check them.
-/

namespace TouchProbe

/-- How the values of a rapid move are meant; `none` leaves it to the moves before. -/
inductive PositionMode where
  | relative
  | absolute
  | none
  deriving DecidableEq, Repr

/-- The coordinates that a rapid move names; `none` leaves it to the moves before. -/
inductive CoordinateSystem where
  | machine
  | wcs
  | none
  deriving DecidableEq, Repr

/-- The member of a list that a value names, where only these names will do. -/
def chooseNamed {α : Type} (all : List α) (name : α → String) (fault : String → Fault)
    (d : Datum) : Except Fault α :=
  match d with
  | .text s => match all.find? (name · == s) with
    | some a => .ok a
    | none => .error (fault d.shown)
  | _ => .error (fault d.shown)

namespace PositionMode

def all : List PositionMode := [relative, absolute, none]

def name : PositionMode → String
  | relative => "relative"
  | absolute => "absolute"
  | none => "none"

def ofName? (s : String) : Option PositionMode := all.find? (·.name == s)

def ofDatum : Datum → Except Fault PositionMode :=
  chooseNamed all name (.notOneOf "position_mode" (all.map name))

end PositionMode

namespace CoordinateSystem

def all : List CoordinateSystem := [machine, wcs, none]

def name : CoordinateSystem → String
  | machine => "machine"
  | wcs => "wcs"
  | none => "none"

def ofName? (s : String) : Option CoordinateSystem := all.find? (·.name == s)

def ofDatum : Datum → Except Fault CoordinateSystem :=
  chooseNamed all name (.notOneOf "coordinate_system" (all.map name))

end CoordinateSystem

/-- The axes of a rapid move as they were given: with values, or only by their names in a list or
by their letters in a text. -/
inductive RapidAxes where
  | values (vs : AxisValues)
  | names (axes : List Axis)
  | letters (axes : List Axis)

structure Rapid where
  axes : RapidAxes
  mode : PositionMode
  system : CoordinateSystem
  description : Datum
  id : Ident

/-- A pause, in seconds. -/
structure Dwell where
  time : Scalar
  description : Datum
  id : Ident

inductive Step where
  | rapid (r : Rapid)
  | dwell (d : Dwell)

/-- What holds the place of the id of a step that nobody has named yet. -/
def unnamedStep : String := "step-<auto>"

namespace RapidAxes

def lettersText (axes : List Axis) : String := String.ofList (axes.map Axis.letter)

def datum : RapidAxes → Datum
  | values vs => .mapping (vs.entries.map fun e => (.text e.1.name, e.2))
  | names axes => .list (axes.map fun a => .text a.name)
  | letters axes => .text (lettersText axes)

def ofDatum (d : Datum) : Except Fault RapidAxes :=
  match d with
  | .mapping entries => do
    let axes ← entries.mapM fun e => Axis.ofDatum e.1
    return values (ByAxis.ofList (axes.zip (entries.map (·.2))))
  | .list xs => do return names (← xs.mapM Axis.ofDatum)
  | .text s => do return letters (← s.toList.mapM fun c => Axis.ofDatum (.text c.toString))
  | _ => .error .wrongKind

def isEmpty : RapidAxes → Bool
  | values vs => vs.isEmpty
  | names axes | letters axes => axes.isEmpty

/-- The values of the axes, which axes by name do not have. -/
def toValues : RapidAxes → Except Fault AxisValues
  | values vs => .ok vs
  | names _ | letters _ => .error .noSuchMember

end RapidAxes

namespace Step

def id : Step → Ident
  | rapid r => r.id
  | dwell d => d.id

def description : Step → Datum
  | rapid r => r.description
  | dwell d => d.description

def kind : Step → String
  | rapid _ => "rapid"
  | dwell _ => "dwell"

end Step

/-- The fields of a step as they are given by name.  Fields that the kind of step does not have
make its building fail. -/
structure StepFields where
  axes : Option Datum := none
  mode : Option Datum := none
  system : Option Datum := none
  time : Option Datum := none
  description : Option Datum := none
  id : Option Ident := none
  /-- Whether a field was given that no step has. -/
  unknown : Bool := false

def StepFields.override (base new : StepFields) : StepFields where
  axes := new.axes <|> base.axes
  mode := new.mode <|> base.mode
  system := new.system <|> base.system
  time := new.time <|> base.time
  description := new.description <|> base.description
  id := new.id <|> base.id
  unknown := base.unknown || new.unknown

def required {α : Type} : Option α → Except Fault α
  | some a => .ok a
  | none => .error .wrongKind

/-- The length that a value is: a number that is not below zero. -/
def lengthOf (what : String) (d : Datum) : Except Fault Scalar := do
  let s ← d.toScalar
  if ← s.isNegative then throw (.negative what s.plain)
  .ok s

namespace Rapid

def build (f : StepFields) : Except Fault Rapid := do
  if f.unknown || f.time.isSome then throw .wrongKind
  let axes ← RapidAxes.ofDatum (f.axes.getD (.mapping []))
  let mode ← PositionMode.ofDatum (f.mode.getD (.text "none"))
  let system ← CoordinateSystem.ofDatum (f.system.getD (.text "none"))
  .ok { axes, mode, system, description := f.description.getD (.text ""), id := f.id.getD .made }

def fields (r : Rapid) : StepFields where
  axes := some r.axes.datum
  mode := some (.text r.mode.name)
  system := some (.text r.system.name)
  description := some r.description
  id := some r.id

end Rapid

namespace Dwell

/-- A pause from its fields: its time is needed and must not be below zero. -/
def build (f : StepFields) : Except Fault Dwell := do
  if f.unknown || f.axes.isSome || f.mode.isSome || f.system.isSome then throw .wrongKind
  let time ← lengthOf "dwell_time" (← required f.time)
  .ok { time, description := f.description.getD (.text ""), id := f.id.getD .made }

def fields (d : Dwell) : StepFields where
  time := some (.scalar d.time)
  description := some d.description
  id := some d.id

end Dwell

def Step.fields : Step → StepFields
  | .rapid r => r.fields
  | .dwell d => d.fields

end TouchProbe
