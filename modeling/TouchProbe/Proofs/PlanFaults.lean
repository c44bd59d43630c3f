import TouchProbe.Proofs.PlannedModes

/-!
A path is planned for every sequence of numbers, unless some value on the way is beyond all floats.
Whole numbers stay whole and may have any size; what the planner does with them fails only where it
needs a float.
-/

namespace TouchProbe

open Number

/-- Whether a computation gives a result with a property, or fails at a value beyond all floats. -/
def InRange {α : Type} (P : α → Prop) : Except Fault α → Prop
  | .ok a => P a
  | .error f => f.family = .beyondRange

theorem InRange.bind {α β : Type} {P : α → Prop} {Q : β → Prop} {x : Except Fault α}
    {next : α → Except Fault β} (hx : InRange P x) (hnext : ∀ a, P a → InRange Q (next a)) :
    InRange Q (x >>= next) := by
  cases x with
  | ok a => exact hnext a hx
  | error f => exact hx

theorem InRange.map {α β : Type} {P : α → Prop} {Q : β → Prop} {x : Except Fault α} {f : α → β}
    (hx : InRange P x) (hf : ∀ a, P a → Q (f a)) : InRange Q (x.map f) := by
  cases x with
  | ok a => exact hf a hx
  | error f => exact hx

/-- Any result will do. -/
abbrev Anything {α : Type} (_ : α) : Prop := True

theorem InRange.mapM {α β : Type} {f : α → Except Fault β} {as : List α}
    (h : ∀ a ∈ as, InRange Anything (f a)) : InRange Anything (as.mapM f) := by
  induction as with
  | nil => trivial
  | cons a as ih =>
      obtain ⟨ha, has⟩ := List.forall_mem_cons.1 h
      rw [List.mapM_cons]
      exact ha.bind fun _ _ => (ih has).bind fun _ _ => trivial

/-! ### Numbers -/

section Numbers

variable (m n : Number)

theorem inRange_toFloat : InRange Anything n.toFloat := by
  cases n with
  | whole n =>
      rw [toFloat]
      cases ofInt? n with
      | some x => trivial
      | none => rfl
  | real x => trivial

theorem inRange_combine (onWhole : Int → Int → Int) (onReal : Float → Float → Float) :
    InRange Anything (combine onWhole onReal m n) := by
  have hfloats : InRange Anything (do
      let x ← m.toFloat
      let y ← n.toFloat
      Except.ok (Number.real (onReal x y))) :=
    (inRange_toFloat m).bind fun _ _ => (inRange_toFloat n).bind fun _ _ => trivial
  cases m with
  | whole m =>
      cases n with
      | whole n => trivial
      | real y => exact hfloats
  | real x =>
      cases n with
      | whole n => exact hfloats
      | real y => trivial

theorem inRange_square : InRange Anything n.square := by
  cases n with
  | whole n => trivial
  | real x =>
      rw [square]
      split
      · trivial
      · split
        · rfl
        · trivial

end Numbers

namespace Datum

def IsNumber (d : Datum) : Prop := d.toNumber.isOk = true

theorem isNumber_toScalar (n : Number) : (Datum.scalar n.toScalar).IsNumber := by cases n <;> rfl

variable {a b : Datum}

theorem IsNumber.toNumber (h : a.IsNumber) : InRange Anything a.toNumber := by
  rw [IsNumber] at h
  cases hn : a.toNumber with
  | ok n => trivial
  | error f =>
      rw [hn] at h
      cases h

theorem IsNumber.toFloat (h : a.IsNumber) : InRange Anything a.toFloat := by
  cases a with
  | scalar s =>
      rw [Datum.toFloat, Scalar.toFloat.eq_def]
      split
      · cases h
      · exact h.toNumber.bind fun n _ => inRange_toFloat n
  | _ => cases h

theorem IsNumber.plus (ha : a.IsNumber) (hb : b.IsNumber) : InRange IsNumber (a.plus b) := by
  rw [Datum.plus.eq_def]
  split
  · cases ha
  · cases ha
  · exact ha.toNumber.bind fun m _ => hb.toNumber.bind fun n _ =>
      (inRange_combine m n _ _).bind fun sum _ => isNumber_toScalar sum

theorem IsNumber.minus (ha : a.IsNumber) (hb : b.IsNumber) : InRange IsNumber (a.minus b) :=
  ha.toNumber.bind fun m _ => hb.toNumber.bind fun n _ =>
    (inRange_combine m n _ _).bind fun difference _ => isNumber_toScalar difference

end Datum

def Position.IsNumeric (p : Position) : Prop := ∀ a, (p.get a).IsNumber

structure Probe.IsNumeric (p : Probe) : Prop where
  direction : (Datum.scalar p.direction).IsNumber
  distance : (Datum.scalar p.distance).IsNumber
  feedRate : p.feedRate.IsNumber
  backoff : (Datum.scalar p.backoff).IsNumber
  offset : p.offset.IsNumber
  moves : Path.HasNumericMoves p
  times : ∀ d, .dwell d ∈ p.preMoves ++ p.postMoves → (Datum.scalar d.time).IsNumber

namespace Position.IsNumeric

variable {p q : Position} (hp : p.IsNumeric)

include hp

theorem set {v : Datum} (hv : v.IsNumber) (a : Axis) : (p.set a v).IsNumeric := by
  intro b
  by_cases hab : b = a
  · rw [hab, get_set_self]
    exact hv
  · rw [get_set_of_ne _ _ hab]
    exact hp b

theorem distance (hq : q.IsNumeric) : InRange Anything (p.distance q) := by
  have hway (a : Axis) : InRange Anything (squaredWay (p.get a) (q.get a)) :=
    (hq a).toNumber.bind fun m _ => (hp a).toNumber.bind fun n _ =>
      (inRange_combine m n _ _).bind fun way _ => inRange_square way
  rw [Position.distance]
  refine (hway .x).bind fun x _ => (hway .y).bind fun y _ => ?_
  refine (inRange_combine x y _ _).bind fun sum _ => (hway .z).bind fun z _ => ?_
  exact (inRange_combine sum z _ _).bind fun all _ => (inRange_toFloat all).bind fun _ _ => trivial

end Position.IsNumeric

namespace Path

/-! ### Walks over numbers -/

theorem inRange_travelTime (distance : Float) {feed : Datum} (h : feed.IsNumber) :
    InRange Anything (travelTime distance feed) := by
  refine h.toNumber.bind fun rate _ => ?_
  split
  · trivial
  · exact (inRange_toFloat rate).bind fun _ _ => trivial

structure Walk.IsNumeric (w : Walk) : Prop where
  position : w.position.IsNumeric
  origin : w.origin.IsNumeric

/-- Whether a walk with some segments has come to numbers only. -/
def Walked {α : Type} (r : Walk × α) : Prop := r.1.IsNumeric

section Walk

variable {w : Walk} (hw : w.IsNumeric) {rapidFeed : Datum} (hfeed : rapidFeed.IsNumber)

include hw

theorem inRange_target (system : CoordinateSystem) {here : Position} (hhere : here.IsNumeric) (a : Axis)
    {v : Datum} (hv : v.IsNumber) : InRange Datum.IsNumber (target w system here a v) := by
  rw [target]
  split
  · exact hv
  · split
    · exact hv.plus (hw.origin a)
    · exact (hhere a).plus hv

theorem inRange_destination (system : CoordinateSystem) {es : List (Axis × Datum)}
    (hes : ∀ e ∈ es, e.2.IsNumber) {here : Position} (hhere : here.IsNumeric) :
    InRange Position.IsNumeric (destination w system here es) := by
  induction es generalizing here with
  | nil => exact hhere
  | cons e es ih =>
      obtain ⟨he, hes⟩ := List.forall_mem_cons.1 hes
      exact (inRange_target hw system hhere e.1 he).bind fun c hc => ih hes (hhere.set hc e.1)

theorem inRange_motion (kind : SegmentKind) {finish : Position} (hfinish : finish.IsNumeric)
    {feed : Datum} (hfeed : feed.IsNumber) (operation : Ident) (step : Option Ident) :
    InRange (fun r => r.1 = { w with position := finish }) (motion kind w finish feed operation step) :=
  (hw.position.distance hfinish).bind fun distance _ =>
    (inRange_travelTime distance hfeed).bind fun _ _ => rfl

include hfeed

theorem inRange_walkStep (operation : Ident) {s : Step} (hs : IsNumeric s)
    (htime : ∀ d, s = .dwell d → (Datum.scalar d.time).IsNumber) :
    InRange Walked (walkStep rapidFeed operation w s) := by
  cases s with
  | rapid r =>
      obtain ⟨vs, hvs, hnumbers⟩ := hs
      rw [walkStep, hvs]
      cases hempty : (RapidAxes.values vs).isEmpty with
      | true => exact hw
      | false =>
          have hset : Walk.IsNumeric { w with isAbsolute := nextMode w.isAbsolute r.mode } :=
            ⟨hw.position, hw.origin⟩
          refine (inRange_destination hset r.system hnumbers hw.position).bind fun finish hfinish => ?_
          refine (inRange_motion hset .rapid hfinish hfeed operation _).bind fun t ht => ?_
          change t.1.IsNumeric
          rw [ht]
          exact ⟨hfinish, hw.origin⟩
  | dwell d =>
      rw [walkStep]
      cases hacts : d.time.isTruthy with
      | false => exact hw
      | true =>
          exact (htime d rfl).toFloat.bind fun _ _ => hw

theorem inRange_walkProbe {p : Probe} (hp : p.IsNumeric) :
    InRange Walked (walkProbe rapidFeed p w) := by
  have hproduct {s t : Scalar} (hs : (Datum.scalar s).IsNumber) (ht : (Datum.scalar t).IsNumber) :
      InRange Anything (do (← s.toNumber).mul (← t.toNumber)) :=
    hs.toNumber.bind fun m _ => ht.toNumber.bind fun n _ => inRange_combine m n _ _
  refine (hproduct hp.direction hp.distance).bind fun travel _ => ?_
  refine ((hw.position p.axis).plus (Datum.isNumber_toScalar travel)).bind fun contact hcontact => ?_
  have hthere := hw.position.set hcontact p.axis
  refine (inRange_motion hw .probe hthere hp.feedRate p.id none).bind fun r hr => ?_
  refine (hcontact.minus hp.offset).bind fun origin horigin => ?_
  have hset : Walk.IsNumeric { r.1 with origin := r.1.origin.set p.axis origin } := by
    rw [hr]
    exact ⟨hthere, hw.origin.set horigin p.axis⟩
  refine hp.direction.toNumber.bind fun m _ => hp.backoff.toNumber.bind fun n _ => ?_
  refine (inRange_combine m n _ _).bind fun back _ => ?_
  refine (hcontact.minus (Datum.isNumber_toScalar back)).bind fun finish hfinish => ?_
  have hhome := hset.position.set hfinish p.axis
  refine (inRange_motion hset .backoff hhome hfeed p.id none).bind fun t ht => ?_
  change t.1.IsNumeric
  rw [ht]
  exact ⟨hhome, hset.origin⟩

end Walk

theorem inRange_walkAll {α : Type} {walk : Walk → α → Except Fault (Walk × List Segment)} {as : List α}
    (h : ∀ a ∈ as, ∀ w : Walk, w.IsNumeric → InRange Walked (walk w a)) {w : Walk}
    (hw : w.IsNumeric) : InRange Walked (walkAll walk w as) := by
  induction as generalizing w with
  | nil => exact hw
  | cons a as ih =>
      obtain ⟨ha, has⟩ := List.forall_mem_cons.1 h
      exact (ha w hw).bind fun first hfirst => (ih has hfirst).bind fun others hothers => hothers

theorem inRange_walkSteps {rapidFeed : Datum} (hfeed : rapidFeed.IsNumber) (operation : Ident)
    {steps : List Step} (hsteps : ∀ s ∈ steps, IsNumeric s)
    (htimes : ∀ d, .dwell d ∈ steps → (Datum.scalar d.time).IsNumber) {w : Walk} (hw : w.IsNumeric) :
    InRange Walked (walkAll (walkStep rapidFeed operation) w steps) :=
  inRange_walkAll (fun s hs _ hw => inRange_walkStep hw hfeed operation (hsteps s hs)
    fun d hd => htimes d (hd ▸ hs)) hw

theorem inRange_walkOperation {rapidFeed : Datum} (hfeed : rapidFeed.IsNumber) {p : Probe}
    (hp : p.IsNumeric) {w : Walk} (hw : w.IsNumeric) :
    InRange Walked (walkOperation rapidFeed w p) := by
  obtain ⟨hpre, hpost⟩ := List.forall_mem_append.1 hp.moves
  refine (inRange_walkSteps hfeed p.id hpre (fun d hd => hp.times d (List.mem_append_left _ hd))
    hw).bind fun before hbefore => ?_
  refine (inRange_walkProbe hbefore hfeed hp).bind fun probing hprobing => ?_
  exact (inRange_walkSteps hfeed p.id hpost (fun d hd => hp.times d (List.mem_append_right _ hd))
    hprobing).bind fun after hafter => hafter

/-- A path over numbers is planned, unless a value is beyond all floats. -/
theorem inRange_plan {ops : List Probe} (hops : ∀ p ∈ ops, p.IsNumeric) {start : Position}
    (hstart : start.IsNumeric) {rapidFeed : Datum} (hfeed : rapidFeed.IsNumber) :
    InRange Anything (plan ops start rapidFeed) := by
  have horigin : Position.origin.IsNumeric := fun a => by cases a <;> rfl
  have hwalk : InRange Walked (walkAll (walkOperation rapidFeed) { position := start } ops) :=
    inRange_walkAll (fun p hp _ hw => inRange_walkOperation hfeed (hops p hp) hw) ⟨hstart, horigin⟩
  exact hwalk.map fun _ _ => trivial

end Path

end TouchProbe
