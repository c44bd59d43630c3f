import TouchProbe.Sequence.Settings

/-! # The planned path

The straight motions that a probe sequence makes the machine do, each with its duration.  Every
probe is taken to touch the surface at the end of its approach.

Moves are incremental until a step says otherwise, and what a step says holds for the steps
after it.  A move in machine coordinates names its end.  Any other absolute move counts from the
work origin, which every probe sets along its axis so that its contact gets its offset; along an
axis that was never probed the origin is zero.
-/

namespace TouchProbe

open Number

/-- What moves on a segment of a path. -/
inductive SegmentKind where
  | rapid
  | dwell
  | probe
  | backoff
  deriving DecidableEq, Repr

def SegmentKind.name : SegmentKind → String
  | rapid => "rapid"
  | dwell => "dwell"
  | probe => "probe"
  | backoff => "backoff"

/-- One straight motion, or a pause. -/
structure Segment where
  kind : SegmentKind
  start : Position
  finish : Position
  /-- In seconds. -/
  duration : Float
  operation : Ident
  /-- The step that asked for the motion; the probe itself and its retreat have none. -/
  step : Option Ident

def squaredWay (a b : Datum) : Except Fault Number := do
  (← (← b.toNumber).sub (← a.toNumber)).square

def Position.distance (a b : Position) : Except Fault Float := do
  let x ← squaredWay a.x b.x
  let y ← squaredWay a.y b.y
  let sum ← x.add y
  let z ← squaredWay a.z b.z
  return (← (← sum.add z).toFloat).sqrt

def Segment.length (s : Segment) : Except Fault Float := s.start.distance s.finish

namespace Path

/-- The rapid rate that is assumed, in units per minute. -/
def usualRapidFeed : Datum := decimal false 2000 0

/-- Seconds in a minute. -/
def minute : Float := nearestDecimal false 60 0

/-- The time that a distance takes at a feed rate for a minute; none at a rate that is not above
zero. -/
def travelTime (distance : Float) (feed : Datum) : Except Fault Float := do
  let rate ← feed.toNumber
  if rate.isNotPositive then return zero
  return distance / (← rate.toFloat) * minute

/-- What the machine has come to. -/
structure Walk where
  position : Position
  /-- Whether moves are absolute. -/
  isAbsolute : Bool := false
  origin : Position := .origin

def motion (kind : SegmentKind) (w : Walk) (finish : Position) (feed : Datum)
    (operation : Ident) (step : Option Ident) : Except Fault (Walk × Segment) := do
  let duration ← travelTime (← w.position.distance finish) feed
  return ({ w with position := finish }, ⟨kind, w.position, finish, duration, operation, step⟩)

def nextMode (isAbsolute : Bool) : PositionMode → Bool
  | .relative => false
  | .absolute => true
  | .none => isAbsolute

def target (w : Walk) (system : CoordinateSystem) (here : Position) (a : Axis) (v : Datum) :
    Except Fault Datum :=
  if system = .machine then .ok v
  else if w.isAbsolute then v.plus (w.origin.get a)
  else (here.get a).plus v

def destination (w : Walk) (system : CoordinateSystem) :
    Position → List (Axis × Datum) → Except Fault Position
  | here, [] => .ok here
  | here, e :: rest => do
    destination w system (here.set e.1 (← target w system here e.1 e.2)) rest

/-- The segments of a movement step: none for a rapid move without axes and for a pause without
a time. -/
def walkStep (rapidFeed : Datum) (operation : Ident) (w : Walk) :
    Step → Except Fault (Walk × List Segment)
  | .rapid r => do
    if r.axes.isEmpty then return (w, [])
    let w := { w with isAbsolute := nextMode w.isAbsolute r.mode }
    let values ← r.axes.toValues
    let finish ← destination w r.system w.position values.entries
    let (w, s) ← motion .rapid w finish rapidFeed operation (some r.id)
    return (w, [s])
  | .dwell d => do
    if !d.time.isTruthy then return (w, [])
    let time ← d.time.toFloat
    return (w, [⟨.dwell, w.position, w.position, time, operation, some d.id⟩])

/-- The segments of the probe itself: the approach and the retreat.  Between the two the work
origin is set. -/
def walkProbe (rapidFeed : Datum) (p : Probe) (w : Walk) :
    Except Fault (Walk × List Segment) := do
  let travel ← p.signedDistance
  let contact ← (w.position.get p.axis).plus (.scalar travel.toScalar)
  let (w, approach) ←
    motion .probe w (w.position.set p.axis contact) p.feedRate p.id none
  let w := { w with origin := w.origin.set p.axis (← contact.minus p.offset) }
  let back ← (← p.direction.toNumber).mul (← p.backoff.toNumber)
  let retreat ← contact.minus (.scalar back.toScalar)
  let (w, retreating) ←
    motion .backoff w (w.position.set p.axis retreat) rapidFeed p.id none
  return (w, [approach, retreating])

def walkAll {α : Type} (walk : Walk → α → Except Fault (Walk × List Segment)) :
    Walk → List α → Except Fault (Walk × List Segment)
  | w, [] => .ok (w, [])
  | w, a :: rest => do
    let (w, first) ← walk w a
    let (w, others) ← walkAll walk w rest
    return (w, first ++ others)

def walkOperation (rapidFeed : Datum) (w : Walk) (p : Probe) :
    Except Fault (Walk × List Segment) := do
  let (w, before) ← walkAll (walkStep rapidFeed p.id) w p.preMoves
  let (w, probing) ← walkProbe rapidFeed p w
  let (w, after) ← walkAll (walkStep rapidFeed p.id) w p.postMoves
  return (w, before ++ probing ++ after)

def plan (operations : List Probe) (start : Position) (rapidFeed : Datum) :
    Except Fault (List Segment) :=
  (walkAll (walkOperation rapidFeed) { position := start } operations).map (·.2)

/-- The duration of a path, in seconds. -/
def duration (path : List Segment) : Float := path.foldl (fun sum s => sum + s.duration) zero

def contacts (path : List Segment) : List Position :=
  (path.filter (·.kind = .probe)).map (·.finish)

end Path

end TouchProbe
