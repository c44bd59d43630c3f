import TouchProbe.Sequence.Probe

/-! # Settings

What a whole program needs to know: where the machine starts, how fast the spindle turns, how
many pauses empty the motion buffer before a probe, the units, and the tool.
-/

namespace TouchProbe

inductive Units where
  | mm
  | inch
  deriving DecidableEq, Repr

namespace Units

/-- The units in the order in which messages list them. -/
def all : List Units := [mm, inch]

def name : Units → String
  | mm => "mm"
  | inch => "inch"

def ofName? (s : String) : Option Units := all.find? (·.name == s)

def ofDatum : Datum → Except Fault Units := chooseNamed all name .badUnits

end Units

/-- How the size of a tool is written. -/
inductive ToolUnit where
  | fraction
  | inch
  | mm
  deriving DecidableEq, Repr

namespace ToolUnit

def all : List ToolUnit := [fraction, inch, mm]

def name : ToolUnit → String
  | fraction => "fraction"
  | inch => "inch"
  | mm => "mm"

def ofName? (s : String) : Option ToolUnit := all.find? (·.name == s)

def ofDatum : Datum → Except Fault ToolUnit :=
  chooseNamed all name (.notOneOf "endmill unit" (all.map name))

end ToolUnit

/-- The size of a tool: as it was written, in what unit, and in millimetres. -/
structure Tool where
  input : Datum
  unit : ToolUnit
  size : Datum

structure Settings where
  start : Position
  /-- The number of pauses before every probe. -/
  dwells : Datum
  spindle : Datum
  units : Units
  tool : Tool
  /-- The operations of the sequence, for those who carry all of it in one value. -/
  operations : List Probe

/-- A float given by its decimal digits. -/
def decimal (negative : Bool) (digits : Nat) (power : Int) : Datum :=
  .float (Number.nearestDecimal negative digits power)

namespace Tool

/-- An eighth of an inch. -/
def default : Tool := ⟨.text "1/8", .fraction, decimal false 3175 (-3)⟩

/-- A tool from its fields; a missing field has its value of the default tool. -/
def build (input unit size : Option Datum) : Except Fault Tool := do
  let unit ← ToolUnit.ofDatum (unit.getD (.text default.unit.name))
  .ok ⟨input.getD default.input, unit, size.getD default.size⟩

end Tool

namespace Position

/-- A position from its fields; a missing coordinate is zero. -/
def ofFields (x y z : Option Datum) : Position :=
  let zero : Datum := .float Number.zero
  ⟨x.getD zero, y.getD zero, z.getD zero⟩

end Position

namespace Settings

/-- The settings that a new sequence starts from. -/
def default : Settings where
  start := ⟨decimal true 78 0, decimal true 100 0, decimal true 41 0⟩
  dwells := .int 15
  spindle := .int 5000
  units := .mm
  tool := Tool.default
  operations := []

end Settings

end TouchProbe
