import TouchProbe.Proofs.EditRuns

/-!
What edits build.  A probe operation or a step that is built has passed the checks of its fields, and
it passes them again: nothing that was built is refused when an edit builds it anew.  So every edit
whose own moves pass their checks leaves only probe operations and steps that pass theirs, and names
change nothing about that.
-/

namespace TouchProbe

open Number

/-! ### Steps -/

theorem mapM_map_self {α β : Type} {write : α → β} {read : β → Except Fault α}
    (h : ∀ a, read (write a) = .ok a) (as : List α) : (as.map write).mapM read = .ok as := by
  have hread : as.mapM (read ∘ write) = .ok (as.map id) := Program.mapM_eq_ok fun a _ => h a
  rwa [List.map_id, ← List.mapM_map] at hread

theorem RapidAxes.ofDatum_datum_self (axes : RapidAxes) : RapidAxes.ofDatum axes.datum = .ok axes := by
  cases axes with
  | values vs => exact RapidAxes.ofDatum_datum vs
  | names axes =>
      have hnames := mapM_map_self Axis.ofDatum_name axes
      rw [RapidAxes.datum, RapidAxes.ofDatum, hnames]
      rfl
  | letters axes =>
      have hletter (a : Axis) : Axis.ofDatum (.text a.letter.toString) = .ok a := by
        have hname : a.letter.toString = a.name := by cases a <;> rfl
        rw [hname, Axis.ofDatum_name]
      have hletters : (axes.map Axis.letter).mapM (fun c => Axis.ofDatum (.text c.toString)) =
          .ok axes := by
        refine mapM_map_self ?_ axes
        exact hletter
      rw [RapidAxes.datum, RapidAxes.ofDatum, RapidAxes.lettersText, String.toList_ofList, hletters]
      rfl

/-- Whatever its axes are given as, a rapid move passes its own checks. -/
theorem Step.passes_rapid (r : Rapid) : (Step.rapid r).Passes := by
  simp [Step.Passes, Rapid.build, Rapid.fields, RapidAxes.ofDatum_datum_self,
    PositionMode.ofDatum_name, CoordinateSystem.ofDatum_name, bind, Except.bind]

theorem isLength_of_lengthOf {what : String} {d : Datum} {s : Scalar} (h : lengthOf what d = .ok s) :
    s.IsLength := by
  obtain ⟨t, -, h⟩ := bind_eq_ok.1 h
  obtain ⟨negative, hnegative, h⟩ := bind_eq_ok.1 h
  cases negative with
  | true => cases h
  | false =>
      obtain rfl := Except.ok.inj h
      exact hnegative

structure StepFields.BuildsDwell (f : StepFields) (d : Dwell) : Prop where
  time : ∃ value, f.time = some value ∧ lengthOf "dwell_time" value = .ok d.time
  description : d.description = f.description.getD (.text "")
  id : d.id = f.id.getD .made

theorem Dwell.builds_of_build {f : StepFields} {d : Dwell} (h : Dwell.build f = .ok d) :
    f.BuildsDwell d := by
  rw [Dwell.build] at h
  split at h
  · cases h
  · obtain ⟨value, hvalue, h⟩ := bind_eq_ok.1 h
    obtain ⟨time, htime, h⟩ := bind_eq_ok.1 h
    obtain rfl := Except.ok.inj h
    exact ⟨⟨value, required_eq_ok.1 hvalue, htime⟩, rfl, rfl⟩

theorem Rapid.builds_of_build {f : StepFields} {r : Rapid} (h : Rapid.build f = .ok r) :
    r.description = f.description.getD (.text "") ∧ r.id = f.id.getD .made := by
  rw [Rapid.build] at h
  split at h
  · cases h
  · obtain ⟨_, -, h⟩ := bind_eq_ok.1 h
    obtain ⟨_, -, h⟩ := bind_eq_ok.1 h
    obtain ⟨_, -, h⟩ := bind_eq_ok.1 h
    obtain rfl := Except.ok.inj h
    exact ⟨rfl, rfl⟩

theorem Step.passes_dwell_iff {d : Dwell} : (Step.dwell d).Passes ↔ d.time.IsLength := by
  refine ⟨fun h => ?_, Dwell.passes⟩
  obtain ⟨value, -, hvalue⟩ := (Dwell.builds_of_build h).time
  exact isLength_of_lengthOf hvalue

/-! ### Probe operations -/

structure ProbeFields.Builds (f : ProbeFields) (p : Probe) : Prop where
  axis : ∃ d, f.axis = some d ∧ Axis.ofDatum d = .ok p.axis
  direction : ∃ d, f.direction = some d ∧ directionOf "direction" d = .ok p.direction
  distance : ∃ d, f.distance = some d ∧ lengthOf "distance" d = .ok p.distance
  feedRate : f.feedRate = some p.feedRate
  backoff : ∃ d, f.backoff = some d ∧ lengthOf "backoff_distance" d = .ok p.backoff
  offset : p.offset = f.offset.getD (.float zero)
  preMoves : p.preMoves = f.preMoves.getD []
  postMoves : p.postMoves = f.postMoves.getD []
  id : p.id = f.id.getD .made

theorem Probe.builds_of_build {f : ProbeFields} {p : Probe} (h : Probe.build f = .ok p) :
    f.Builds p := by
  rw [Probe.build] at h
  split at h
  · cases h
  · obtain ⟨axis, haxis, h⟩ := bind_eq_ok.1 h
    obtain ⟨direction, hdirection, h⟩ := bind_eq_ok.1 h
    obtain ⟨distance, hdistance, h⟩ := bind_eq_ok.1 h
    obtain ⟨feedRate, hfeedRate, h⟩ := bind_eq_ok.1 h
    obtain ⟨backoff, hbackoff, h⟩ := bind_eq_ok.1 h
    rw [required_eq_ok] at haxis hdirection hdistance hfeedRate hbackoff
    obtain ⟨a, ha, h⟩ := bind_eq_ok.1 h
    obtain ⟨sign, hsign, h⟩ := bind_eq_ok.1 h
    obtain ⟨travel, htravel, h⟩ := bind_eq_ok.1 h
    obtain ⟨retreat, hretreat, h⟩ := bind_eq_ok.1 h
    obtain rfl := Except.ok.inj h
    exact {
      axis := ⟨axis, haxis, ha⟩
      direction := ⟨direction, hdirection, hsign⟩
      distance := ⟨distance, hdistance, htravel⟩
      feedRate := hfeedRate
      backoff := ⟨backoff, hbackoff, hretreat⟩
      offset := rfl
      preMoves := rfl
      postMoves := rfl
      id := rfl }

theorem isUnit_of_directionOf {what : String} {d : Datum} {s : Scalar}
    (h : directionOf what d = .ok s) : s.isUnit = true := by
  rw [directionOf.eq_def] at h
  split at h
  · split at h
    · next hunit =>
      obtain rfl := Except.ok.inj h
      exact hunit
    · cases h
  · cases h

/-- What is built passes the checks again. -/
theorem ProbeFields.Builds.passes {f : ProbeFields} {p : Probe} (h : f.Builds p) : p.Passes := by
  obtain ⟨direction, -, hdirection⟩ := h.direction
  obtain ⟨distance, -, hdistance⟩ := h.distance
  obtain ⟨backoff, -, hbackoff⟩ := h.backoff
  exact Probe.passes (isUnit_of_directionOf hdirection) (isLength_of_lengthOf hdistance)
    (isLength_of_lengthOf hbackoff)

theorem Probe.passes_congr {p q : Probe} (h : p.Passes) (hdirection : q.direction = p.direction)
    (hdistance : q.distance = p.distance) (hbackoff : q.backoff = p.backoff) : q.Passes := by
  have hbuilds := Probe.builds_of_build h
  obtain ⟨direction, -, hsign⟩ := hbuilds.direction
  obtain ⟨distance, -, htravel⟩ := hbuilds.distance
  obtain ⟨backoff, -, hretreat⟩ := hbuilds.backoff
  exact Probe.passes (hdirection ▸ isUnit_of_directionOf hsign)
    (hdistance ▸ isLength_of_lengthOf htravel) (hbackoff ▸ isLength_of_lengthOf hretreat)

/-- Whether a probe operation and its moves pass their own checks. -/
structure Probe.IsValid (p : Probe) : Prop where
  passes : p.Passes
  preMoves : ∀ m ∈ p.preMoves, m.Passes
  postMoves : ∀ m ∈ p.postMoves, m.Passes

/-- Whether the moves among the fields of a probe operation pass their own checks. -/
structure ProbeFields.HasValidMoves (f : ProbeFields) : Prop where
  preMoves : ∀ ms ∈ f.preMoves, ∀ m ∈ ms, m.Passes
  postMoves : ∀ ms ∈ f.postMoves, ∀ m ∈ ms, m.Passes

theorem ProbeFields.HasValidMoves.override {f g : ProbeFields} (hf : f.HasValidMoves)
    (hg : g.HasValidMoves) : (f.override g).HasValidMoves where
  preMoves := forall_mem_orElse hg.preMoves hf.preMoves
  postMoves := forall_mem_orElse hg.postMoves hf.postMoves

theorem Probe.isValid_of_build {f : ProbeFields} {p : Probe} (hf : f.HasValidMoves)
    (h : Probe.build f = .ok p) : p.IsValid := by
  have hbuilds := Probe.builds_of_build h
  refine ⟨hbuilds.passes, ?_, ?_⟩
  · rw [hbuilds.preMoves]
    exact getD_of_forall hf.preMoves (by simp)
  · rw [hbuilds.postMoves]
    exact getD_of_forall hf.postMoves (by simp)

/-! ### Edits -/

namespace Edit

/-- Whether the moves that an edit is given pass their own checks. -/
def Command.IsValid : Command → Prop
  | addProbe template given => template.HasValidMoves ∧ given.HasValidMoves
  | updateProbe _ changes => changes.HasValidMoves
  | addMovement _ _ step => ∀ s ∈ step, s.Passes
  | removeProbe _ | moveProbe _ _ | updateMovement _ _ _ _ _ | removeMovement _ _ _ => True

theorem isOfMoves_isValid : IsOfMoves Probe.IsValid Step.Passes where
  moves h side := by
    cases side with
    | pre => exact h.preMoves
    | post => exact h.postMoves
  withMoves h side moves hmoves := by
    cases side with
    | pre => exact ⟨Probe.passes_congr h.passes rfl rfl rfl, hmoves, h.postMoves⟩
    | post => exact ⟨Probe.passes_congr h.passes rfl rfl rfl, h.preMoves, hmoves⟩

/-- What becomes of a step passes its own checks, and its id and its description stay unless the
changes name them. -/
structure Changes (changes : StepFields) (s t : Step) : Prop where
  passes : t.Passes
  id : changes.id = none → t.id = s.id
  description : changes.description = none → t.description = s.description

theorem changes_of_rapid {base changes : StepFields} {s : Step} {r : Rapid}
    (hid : base.id = some s.id) (hdescription : base.description = some s.description)
    (h : Rapid.build (base.override changes) = .ok r) : Changes changes s (.rapid r) := by
  obtain ⟨hdescription', hid'⟩ := Rapid.builds_of_build h
  refine ⟨Step.passes_rapid r, fun hnone => ?_, fun hnone => ?_⟩
  · change r.id = s.id
    simp [hid', StepFields.override, hnone, hid]
  · change r.description = s.description
    simp [hdescription', StepFields.override, hnone, hdescription]

theorem changes_of_dwell {base changes : StepFields} {s : Step} {d : Dwell}
    (hid : base.id = some s.id) (hdescription : base.description = some s.description)
    (h : Dwell.build (base.override changes) = .ok d) : Changes changes s (.dwell d) := by
  have hbuilds := Dwell.builds_of_build h
  obtain ⟨value, -, hvalue⟩ := hbuilds.time
  refine ⟨Dwell.passes (isLength_of_lengthOf hvalue), fun hnone => ?_, fun hnone => ?_⟩
  · change d.id = s.id
    simp [hbuilds.id, StepFields.override, hnone, hid]
  · change d.description = s.description
    simp [hbuilds.description, StepFields.override, hnone, hdescription]

theorem changes_of_changeStep {kind : Option Datum} {changes : StepFields} {s t : Step}
    (h : changeStep kind changes s = .ok t) : Changes changes s t := by
  simp only [changeStep] at h
  split at h
  · cases h
  · split at h
    · obtain ⟨r, hr, h⟩ := bind_eq_ok.1 h
      obtain rfl := Except.ok.inj h
      exact changes_of_rapid rfl rfl hr
    · obtain ⟨d, hd, h⟩ := bind_eq_ok.1 h
      obtain rfl := Except.ok.inj h
      exact changes_of_dwell rfl rfl hd
    · obtain ⟨r, hr, h⟩ := bind_eq_ok.1 h
      obtain rfl := Except.ok.inj h
      exact changes_of_rapid rfl rfl hr
    · obtain ⟨d, hd, h⟩ := bind_eq_ok.1 h
      obtain rfl := Except.ok.inj h
      exact changes_of_dwell rfl rfl hd

theorem keeps_isValid {c : Command} (hc : c.IsValid) : c.Keeps Probe.IsValid Step.Passes := by
  have husual : usualProbe.HasValidMoves := ⟨of_mem_none, of_mem_none⟩
  cases c with
  | addProbe template given =>
      exact fun p => Probe.isValid_of_build ((husual.override hc.1).override hc.2)
  | updateProbe id changes =>
      refine fun p q hp => Probe.isValid_of_build (ProbeFields.HasValidMoves.override ?_ hc)
      exact ⟨of_mem_some hp.preMoves, of_mem_some hp.postMoves⟩
  | addMovement id side step => exact fun side => getD_of_forall hc (Step.passes_rapid _)
  | updateMovement id stepId side kind changes => exact fun s t _ h => (changes_of_changeStep h).passes
  | removeProbe id => trivial
  | moveProbe source destination => trivial
  | removeMovement id stepId side => trivial

open Naming

theorem passes_nameStep {s : Step} (h : s.Passes) (ending : String) : (nameStep ending s).Passes := by
  cases s with
  | rapid r => exact Step.passes_rapid _
  | dwell d =>
      have hlength : d.time.IsLength := Step.passes_dwell_iff.1 h
      exact Dwell.passes hlength

theorem isValid_nameProbes {ps : List Probe} (h : ∀ p ∈ ps, p.IsValid) (endings : Nat → String) :
    ∀ q ∈ nameProbes endings 0 ps, q.IsValid := by
  have hsteps {ms : List Step} (hms : ∀ m ∈ ms, m.Passes) (first : Nat) :
      ∀ m ∈ nameSteps endings first ms, m.Passes := by
    intro m hm
    obtain ⟨s, hs, rfl⟩ := List.mem_map.1 hm
    exact passes_nameStep (hms s.1 (List.fst_mem_of_mem_zipIdx hs)) _
  intro q hq
  obtain ⟨p, hp, k, rfl⟩ := exists_of_mem_nameProbes hq
  have hvalid := h p hp
  exact ⟨Probe.passes_congr hvalid.passes rfl rfl rfl, hsteps hvalid.preMoves _,
    hsteps hvalid.postMoves _⟩

end Edit

end TouchProbe
