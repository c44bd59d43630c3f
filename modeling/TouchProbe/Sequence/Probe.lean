import TouchProbe.Sequence.Step

/-! # Probe operations

A probe operation is one touch cycle along an axis: an approach that stops at the surface, the
setting of the work origin, and a retreat.  It carries the steps before the approach and the
steps after the retreat.

Operations are built from named fields by `Probe.build`, which checks axis, direction and the
two lengths that must not be below zero, in this order.
-/

namespace TouchProbe

/-- One touch cycle along an axis.  Numbers are kept as they were given. -/
structure Probe where
  axis : Axis
  /-- One or minus one: the sign of the approach. -/
  direction : Scalar
  distance : Scalar
  feedRate : Datum
  backoff : Scalar
  /-- The coordinate that the surface gets in the work system. -/
  offset : Datum
  preMoves : List Step
  postMoves : List Step
  id : Ident

/-- What holds the place of the id of a probe operation that nobody has named yet. -/
def unnamedProbe : String := "probe-<auto>"

/-- The fields of a probe operation as they are given by name. -/
structure ProbeFields where
  axis : Option Datum := none
  direction : Option Datum := none
  distance : Option Datum := none
  feedRate : Option Datum := none
  backoff : Option Datum := none
  offset : Option Datum := none
  preMoves : Option (List Step) := none
  postMoves : Option (List Step) := none
  id : Option Ident := none
  /-- Whether a field was given that no probe operation has. -/
  unknown : Bool := false

/-- The first fields, replaced by the second where those are given. -/
def ProbeFields.override (base new : ProbeFields) : ProbeFields where
  axis := new.axis <|> base.axis
  direction := new.direction <|> base.direction
  distance := new.distance <|> base.distance
  feedRate := new.feedRate <|> base.feedRate
  backoff := new.backoff <|> base.backoff
  offset := new.offset <|> base.offset
  preMoves := new.preMoves <|> base.preMoves
  postMoves := new.postMoves <|> base.postMoves
  id := new.id <|> base.id
  unknown := base.unknown || new.unknown

/-- Whether a scalar is one or minus one. -/
def Scalar.isUnit (s : Scalar) : Bool := s.same (.int 1) || s.same (.int (-1))

def directionOf (what : String) (d : Datum) : Except Fault Scalar :=
  match d with
  | .scalar s => if s.isUnit then .ok s else .error (.badDirection what d.shown)
  | _ => .error (.badDirection what d.shown)

namespace Probe

def build (f : ProbeFields) : Except Fault Probe := do
  if f.unknown then throw .wrongKind
  let axis ← required f.axis
  let direction ← required f.direction
  let distance ← required f.distance
  let feedRate ← required f.feedRate
  let backoff ← required f.backoff
  let axis ← Axis.ofDatum axis
  let direction ← directionOf "direction" direction
  let distance ← lengthOf "distance" distance
  let backoff ← lengthOf "backoff_distance" backoff
  .ok {
    axis, direction, distance, feedRate, backoff
    offset := f.offset.getD (.float Number.zero)
    preMoves := f.preMoves.getD []
    postMoves := f.postMoves.getD []
    id := f.id.getD .made }

def fields (p : Probe) : ProbeFields where
  axis := some (.text p.axis.name)
  direction := some (.scalar p.direction)
  distance := some (.scalar p.distance)
  feedRate := some p.feedRate
  backoff := some (.scalar p.backoff)
  offset := some p.offset
  preMoves := some p.preMoves
  postMoves := some p.postMoves
  id := some p.id

/-- The travel of the approach, with its sign. -/
def signedDistance (p : Probe) : Except Fault Number := do
  (← p.direction.toNumber).mul (← p.distance.toNumber)

/-- Whether the approach goes to larger coordinates. -/
def isForward (p : Probe) : Bool :=
  match p.direction.number? with
  | some n => n.isPositive
  | none => false

end Probe

end TouchProbe
