import TouchProbe.Proofs.PathRoundTrip
import TouchProbe.Proofs.PlannedModes

/-!
The motions that a probe sequence asks for, in their order: those of its steps that are no
placeholders, and for each operation its approach and right after it its retreat.  A path that is
planned has one segment for each of them.  What one motion does to a walk is said once, for all of
its uses.
-/

namespace TouchProbe

open Program

/-- Whether a step asks for a motion: a rapid move without axes and a pause without a time do
not. -/
def Step.acts : Step → Bool
  | .rapid r => !r.axes.isEmpty
  | .dwell d => d.time.isTruthy

def Step.segmentKind : Step → SegmentKind
  | .rapid _ => .rapid
  | .dwell _ => .dwell

namespace Path

/-- A motion that an operation asks for: one of its steps, its approach, or its retreat. -/
inductive Motion where
  | step (operation : Ident) (s : Step)
  | approach (p : Probe)
  | retreat (p : Probe)

/-- What a segment tells of the motion that it is: the kind, the operation and the step. -/
abbrev Key := SegmentKind × Ident × Option Ident

end Path

def Segment.key (s : Segment) : Path.Key := (s.kind, s.operation, s.step)

namespace Path

def Motion.key : Motion → Key
  | step operation s => (s.segmentKind, operation, some s.id)
  | approach p => (.probe, p.id, none)
  | retreat p => (.backoff, p.id, none)

def stepMotions (operation : Ident) (steps : List Step) : List Motion :=
  (steps.filter Step.acts).map (.step operation)

def motionsOf (p : Probe) : List Motion :=
  stepMotions p.id p.preMoves ++ [.approach p, .retreat p] ++ stepMotions p.id p.postMoves

def motions (ops : List Probe) : List Motion := ops.flatMap motionsOf

/-! ### What motions do to a walk -/

/-- Whether a walk goes through some motions, with their segments, and what it comes to.  The
approach of a probe and its retreat are one after the other, and the work origin is set between
them. -/
inductive Traces : Walk → List Motion → List Segment → Walk → Prop
  | rest {w : Walk} : Traces w [] [] w
  | rapid {w w' : Walk} {operation : Ident} {r : Rapid} {vs : AxisValues} {finish : Position}
      {duration : Float} {ms : List Motion} {path : List Segment} (axes : r.axes = .values vs)
      (ends : destination { w with isAbsolute := nextMode w.isAbsolute r.mode } r.system w.position
        vs.entries = .ok finish)
      (tail : Traces { w with position := finish, isAbsolute := nextMode w.isAbsolute r.mode } ms path
        w') :
      Traces w (.step operation (.rapid r) :: ms)
        (⟨.rapid, w.position, finish, duration, operation, some r.id⟩ :: path) w'
  | dwell {w w' : Walk} {operation : Ident} {d : Dwell} {time : Float} {ms : List Motion}
      {path : List Segment} (tail : Traces w ms path w') :
      Traces w (.step operation (.dwell d) :: ms)
        (⟨.dwell, w.position, w.position, time, operation, some d.id⟩ :: path) w'
  | probe {w w' : Walk} {p : Probe} {travel back : Number} {contact origin finish : Datum}
      {there home : Float} {ms : List Motion} {path : List Segment}
      (travels : p.signedDistance = .ok travel)
      (touches : (w.position.get p.axis).plus (.scalar travel.toScalar) = .ok contact)
      (sets : contact.minus p.offset = .ok origin) (backs : signedBackoff p = .ok back)
      (ends : contact.minus (.scalar back.toScalar) = .ok finish)
      (tail : Traces { w with
        position := (w.position.set p.axis contact).set p.axis finish
        origin := w.origin.set p.axis origin } ms path w') :
      Traces w (.approach p :: .retreat p :: ms)
        (⟨.probe, w.position, w.position.set p.axis contact, there, p.id, none⟩ ::
          ⟨.backoff, w.position.set p.axis contact, (w.position.set p.axis contact).set p.axis finish,
            home, p.id, none⟩ :: path) w'

theorem Traces.append {w w₁ w' : Walk} {ms ns : List Motion} {path rest : List Segment}
    (h : Traces w ms path w₁) (hrest : Traces w₁ ns rest w') :
    Traces w (ms ++ ns) (path ++ rest) w' := by
  induction h with
  | rest => exact hrest
  | rapid axes ends _ ih => exact .rapid axes ends (ih hrest)
  | dwell _ ih => exact .dwell (ih hrest)
  | probe travels touches sets backs ends _ ih => exact .probe travels touches sets backs ends (ih hrest)

/-! ### What a planned path is -/

variable {rapidFeed : Datum} {w w' : Walk} {path : List Segment}

theorem walkStep_of_not_acts {s : Step} (h : s.acts = false) (operation : Ident) :
    walkStep rapidFeed operation w s = .ok (w, []) := by
  cases s with
  | rapid r =>
      rw [Step.acts, Bool.not_eq_false'] at h
      rw [walkStep, h]
      rfl
  | dwell d =>
      rw [Step.acts] at h
      rw [walkStep, h]
      rfl

theorem toValues_eq_ok {axes : RapidAxes} {vs : AxisValues} (h : axes.toValues = .ok vs) :
    axes = .values vs := by
  cases axes with
  | values ws => rw [Except.ok.inj h]
  | names _ => cases h
  | letters _ => cases h

theorem traces_walkStep {operation : Ident} {s : Step}
    (h : walkStep rapidFeed operation w s = .ok (w', path)) :
    Traces w (stepMotions operation [s]) path w' := by
  cases hacts : s.acts with
  | false =>
      rw [walkStep_of_not_acts hacts] at h
      obtain ⟨rfl, rfl⟩ := Prod.mk.inj (Except.ok.inj h)
      rw [stepMotions, List.filter_singleton, hacts]
      exact .rest
  | true =>
      rw [stepMotions, List.filter_singleton, hacts]
      cases s with
      | rapid r =>
          rw [Step.acts, Bool.not_eq_true'] at hacts
          rw [walkStep, hacts] at h
          obtain ⟨vs, hvs, h⟩ := bind_eq_ok.1 h
          obtain ⟨finish, hfinish, h⟩ := bind_eq_ok.1 h
          obtain ⟨⟨w₁, s⟩, hmotion, h⟩ := bind_eq_ok.1 h
          obtain ⟨rfl, rfl⟩ := Prod.mk.inj (Except.ok.inj h)
          obtain ⟨rfl, duration, rfl⟩ := motion_eq_ok hmotion
          exact .rapid (toValues_eq_ok hvs) hfinish .rest
      | dwell d =>
          rw [Step.acts] at hacts
          rw [walkStep, hacts] at h
          obtain ⟨time, -, h⟩ := bind_eq_ok.1 h
          obtain ⟨rfl, rfl⟩ := Prod.mk.inj (Except.ok.inj h)
          exact .dwell .rest

theorem traces_walkSteps {operation : Ident} {steps : List Step}
    (h : walkAll (walkStep rapidFeed operation) w steps = .ok (w', path)) :
    Traces w (stepMotions operation steps) path w' := by
  induction steps generalizing w path with
  | nil =>
      obtain ⟨rfl, rfl⟩ := Prod.mk.inj (Except.ok.inj h)
      exact .rest
  | cons s steps ih =>
      obtain ⟨w₁, p₁, p₂, hfirst, hrest, rfl⟩ := walkAll_cons_eq_ok h
      have happend := (traces_walkStep hfirst).append (ih hrest)
      rwa [stepMotions, stepMotions, ← List.map_append, ← List.filter_append] at happend

theorem traces_walkProbe {p : Probe} (h : walkProbe rapidFeed p w = .ok (w', path)) :
    Traces w [.approach p, .retreat p] path w' := by
  rw [walkProbe] at h
  obtain ⟨travel, htravel, h⟩ := bind_eq_ok.1 h
  obtain ⟨contact, hcontact, h⟩ := bind_eq_ok.1 h
  obtain ⟨⟨w₁, approach⟩, happroach, h⟩ := bind_eq_ok.1 h
  obtain ⟨rfl, there, rfl⟩ := motion_eq_ok happroach
  obtain ⟨origin, horigin, h⟩ := bind_eq_ok.1 h
  rw [bind_signedBackoff] at h
  obtain ⟨back, hback, h⟩ := bind_eq_ok.1 h
  obtain ⟨finish, hfinish, h⟩ := bind_eq_ok.1 h
  obtain ⟨⟨w₂, retreat⟩, hretreat, h⟩ := bind_eq_ok.1 h
  obtain ⟨rfl, home, rfl⟩ := motion_eq_ok hretreat
  obtain ⟨rfl, rfl⟩ := Prod.mk.inj (Except.ok.inj h)
  exact .probe htravel hcontact horigin hback hfinish .rest

theorem traces_walkOperations {ops : List Probe}
    (h : walkAll (walkOperation rapidFeed) w ops = .ok (w', path)) : Traces w (motions ops) path w' := by
  induction ops generalizing w path with
  | nil =>
      obtain ⟨rfl, rfl⟩ := Prod.mk.inj (Except.ok.inj h)
      exact .rest
  | cons p ops ih =>
      obtain ⟨w₁, p₁, p₂, hfirst, hrest, rfl⟩ := walkAll_cons_eq_ok h
      obtain ⟨w₂, q₁, w₃, q₂, q₃, hpre, hprobe, hpost, rfl⟩ := walkOperation_eq_ok hfirst
      have hoperation := ((traces_walkSteps hpre).append (traces_walkProbe hprobe)).append
        (traces_walkSteps hpost)
      exact hoperation.append (ih hrest)

/-- A path that is planned has the segments of the motions that its operations ask for. -/
theorem traces_plan {ops : List Probe} {start : Position} (h : plan ops start rapidFeed = .ok path) :
    ∃ w', Traces { position := start } (motions ops) path w' := by
  obtain ⟨⟨w', p⟩, hall, rfl⟩ := map_eq_ok.1 h
  exact ⟨w', traces_walkOperations hall⟩

theorem Traces.keys {ms : List Motion} (h : Traces w ms path w') :
    path.map Segment.key = ms.map Motion.key := by
  induction h with
  | rest => rfl
  | rapid axes ends _ ih => simp [ih, Segment.key, Motion.key, Step.segmentKind, Step.id]
  | dwell _ ih => simp [ih, Segment.key, Motion.key, Step.segmentKind, Step.id]
  | probe travels touches sets backs ends _ ih => simp [ih, Segment.key, Motion.key]

/-! ### A small sequence -/

/-- A rapid move without axes, which asks for no motion though it names a mode. -/
def placeholder : Step :=
  .rapid {
    axes := .values .empty
    mode := .absolute
    system := .wcs
    description := .text "Nothing yet"
    id := .made }

/-- A move along Z that counts from the work origin. -/
def moveAbove : Step :=
  .rapid {
    axes := .values ⟨[(.z, .int 5)], List.nodup_singleton _⟩
    mode := .absolute
    system := .wcs
    description := .text "Above the stock"
    id := .made }

/-- Two probes down, the second one from above the contact of the first one. -/
def descent : List Probe := [downward [placeholder] [], downward [moveAbove] [placeholder]]

theorem exists_plan_descent : ∃ path, plan descent .origin usualRapidFeed = .ok path := by
  have hok : (plan descent .origin usualRapidFeed).isOk = true := by decide +kernel
  exact isOk_iff.1 hok

end Path

end TouchProbe
