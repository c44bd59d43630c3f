import TouchProbe.Proofs.Fields

/-!
Documents of sequences.  A document is accepted just when all that it holds is sound, and what is
sound is built without a fault, so the checks of the model never refuse what the checks of documents
let pass.
-/

namespace TouchProbe

namespace Document

open Number Validated

/-! ### What is accepted -/

/-- Whether a step of a document passes the checks. -/
def StoredStep.IsSound : StoredStep → Prop
  | .rapid .. => True
  | .dwell _ _ time => zero ≤ time

structure StoredProbe.IsSound (p : StoredProbe) : Prop where
  direction : p.direction = 1 ∨ p.direction = -1
  distance : zero ≤ p.distance
  feedRate : zero < p.feedRate
  backoff : zero ≤ p.backoff
  preMoves : ∀ m ∈ p.preMoves, m.IsSound
  postMoves : ∀ m ∈ p.postMoves, m.IsSound

theorem step_rapid {fields : List (String × Datum)}
    (h : Record.get? (entriesOf fields) "type" = some (.text "rapid")) :
    step (.record fields) = (Document.rapid (entriesOf fields)).within (.field "rapid") := by
  rw [step, bare_record]
  simp only [h]

theorem step_dwell {fields : List (String × Datum)}
    (h : Record.get? (entriesOf fields) "type" = some (.text "dwell")) :
    step (.record fields) = (Document.dwell (entriesOf fields)).within (.field "dwell") := by
  rw [step, bare_record]
  simp only [h]

/-- A step is read from its record as it is, if it is sound, and is refused otherwise. -/
theorem step_datum (s r : StoredStep) : step s.datum = valid r ↔ s = r ∧ s.IsSound := by
  cases s with
  | rapid id description axes mode system =>
      rw [StoredStep.datum, step_rapid (by simp), within_eq_valid]
      simp [Document.rapid, Document.optional, within_eq_valid, seq_eq_valid, map_eq_valid,
        StoredStep.IsSound]
  | dwell id description time =>
      rw [StoredStep.datum, step_dwell (by simp), within_eq_valid]
      simp [Document.dwell, Document.optional, Document.required, within_eq_valid, seq_eq_valid,
        map_eq_valid, nonNegative_eq_valid, StoredStep.IsSound, and_comm]

/-- A probe operation is read from its record as it is, if it is sound, and is refused otherwise. -/
theorem probe_datum (p r : StoredProbe) : probe p.datum = valid r ↔ p = r ∧ p.IsSound := by
  have hpre := list_written step_datum p.preMoves
  have hpost := list_written step_datum p.postMoves
  -- The checks are nested to the left, in the order of the fields.
  have hfields : probe p.datum = valid r ↔
      (((((p.direction = 1 ∨ p.direction = -1) ∧ zero ≤ p.distance) ∧ zero < p.feedRate) ∧
        zero ≤ p.backoff) ∧ ∀ m ∈ p.preMoves, m.IsSound) ∧ (∀ m ∈ p.postMoves, m.IsSound) ∧ p = r := by
    simp [probe, StoredProbe.datum, record, Document.optional, Document.required, within_eq_valid,
      seq_eq_valid, map_eq_valid, nonNegative_eq_valid, positive_eq_valid, direction_int, hpre, hpost]
  rw [hfields]
  constructor
  · rintro ⟨⟨⟨⟨⟨direction, distance⟩, feedRate⟩, backoff⟩, preMoves⟩, postMoves, rfl⟩
    exact ⟨rfl, ⟨direction, distance, feedRate, backoff, preMoves, postMoves⟩⟩
  · rintro ⟨rfl, h⟩
    exact ⟨⟨⟨⟨⟨h.direction, h.distance⟩, h.feedRate⟩, h.backoff⟩, h.preMoves⟩, h.postMoves, rfl⟩

/-- A step that is accepted is sound. -/
theorem isSound_of_step {d : Datum} {s : StoredStep} (h : step d = valid s) : s.IsSound := by
  rw [step] at h
  split at h
  · next entries _ =>
    split at h
    · cases h
    · rw [within_eq_valid, Document.rapid] at h
      simp only [seq_eq_valid, map_eq_valid] at h
      obtain ⟨-, ⟨-, ⟨-, ⟨-, ⟨-, -, rfl⟩, -, -, rfl⟩, -, -, rfl⟩, -, -, rfl⟩, -, -, rfl⟩ := h
      trivial
    · rw [within_eq_valid, Document.dwell] at h
      simp only [seq_eq_valid, map_eq_valid] at h
      obtain ⟨-, ⟨-, ⟨-, -, rfl⟩, -, -, rfl⟩, time, htime, rfl⟩ := h
      obtain ⟨e, he⟩ := exists_of_required htime
      exact (nonNegative_eq_valid.1 he).2
    · cases h
  · cases h

theorem isSound_of_steps {name : String} {entries : Record.Entries} {steps : List StoredStep}
    (h : Document.optional name [] (list step) entries = valid steps) :
    ∀ s ∈ steps, s.IsSound := by
  intro s hs
  rcases exists_of_optional h with rfl | ⟨d, hd⟩
  · cases hs
  · obtain ⟨e, he⟩ := mem_of_list hd s hs
    exact isSound_of_step he

/-- A probe operation that is accepted is sound. -/
theorem isSound_of_probe {d : Datum} {p : StoredProbe} (h : probe d = valid p) : p.IsSound := by
  obtain ⟨entries, h⟩ := exists_of_record h
  simp only [seq_eq_valid, map_eq_valid] at h
  obtain ⟨_, ⟨_, ⟨_, ⟨_, ⟨_, ⟨_, ⟨_, ⟨_, ⟨_, -, rfl⟩, _, -, rfl⟩, direction, hdirection, rfl⟩, distance,
    hdistance, rfl⟩, feedRate, hfeedRate, rfl⟩, backoff, hbackoff, rfl⟩, _, -, rfl⟩, pre, hpre, rfl⟩,
    post, hpost, rfl⟩ := h
  obtain ⟨_, hdirection⟩ := exists_of_required hdirection
  obtain ⟨_, hdistance⟩ := exists_of_required hdistance
  obtain ⟨_, hfeedRate⟩ := exists_of_required hfeedRate
  obtain ⟨_, hbackoff⟩ := exists_of_required hbackoff
  exact {
    direction := direction_eq_valid hdirection
    distance := (nonNegative_eq_valid.1 hdistance).2
    feedRate := (positive_eq_valid.1 hfeedRate).2
    backoff := (nonNegative_eq_valid.1 hbackoff).2
    preMoves := isSound_of_steps hpre
    postMoves := isSound_of_steps hpost }

/-! ### What is built -/

def StoredStep.step : StoredStep → Step
  | rapid id description axes mode system => .rapid {
      axes := .values (axes.map .float)
      mode
      system
      description := .text description
      id := idOf id }
  | dwell id description time => .dwell {
      time := .float time
      description := .text description
      id := idOf id }

def StoredProbe.probe (p : StoredProbe) : Probe where
  axis := p.axis
  direction := .int p.direction
  distance := .float p.distance
  feedRate := .float p.feedRate
  backoff := .float p.backoff
  offset := .float p.offset
  preMoves := p.preMoves.map StoredStep.step
  postMoves := p.postMoves.map StoredStep.step
  id := idOf p.id

def SequenceFile.sequence (f : SequenceFile) : Settings :=
  { f.settings with operations := f.operations.map StoredProbe.probe }

theorem StoredStep.build_eq {s : StoredStep} (h : s.IsSound) : s.build = .ok s.step := by
  cases s with
  | rapid id description axes mode system =>
      have hpasses : (StoredStep.rapid id description axes mode system).step.Passes :=
        Rapid.passes rfl
      rw [StoredStep.step, Step.Passes, Rapid.fields, RapidAxes.datum, ByAxis.map, List.map_map] at hpasses
      rw [StoredStep.build]
      exact congrArg (fun r => r >>= fun r => Except.ok (Step.rapid r)) hpasses
  | dwell id description time =>
      have hpasses : (StoredStep.dwell id description time).step.Passes :=
        Dwell.passes (isLength_float h)
      exact congrArg (fun d => d >>= fun d => Except.ok (Step.dwell d)) hpasses

theorem StoredProbe.build_eq {p : StoredProbe} (h : p.IsSound) : p.build = .ok p.probe := by
  have hpre := Program.mapM_eq_ok fun m hm => StoredStep.build_eq (h.preMoves m hm)
  have hpost := Program.mapM_eq_ok fun m hm => StoredStep.build_eq (h.postMoves m hm)
  have hunit : (Scalar.int p.direction).isUnit = true := by
    rcases h.direction with hd | hd <;> rw [hd] <;> decide
  have hpasses : p.probe.Passes := Probe.passes hunit
    (isLength_float h.distance) (isLength_float h.backoff)
  rw [StoredProbe.build, hpre, hpost]
  exact hpasses

theorem SequenceFile.build_eq {f : SequenceFile} (h : ∀ p ∈ f.operations, p.IsSound) :
    f.build = .ok f.sequence := by
  have hoperations := Program.mapM_eq_ok fun p hp => StoredProbe.build_eq (h p hp)
  simp [SequenceFile.build, SequenceFile.sequence, hoperations, Tool.build, ToolUnit.ofDatum_name,
    Units.ofDatum_name, bind, Except.bind, pure, Except.pure]

/-! ### Whole documents -/

theorem operations_of_sequenceFile {d : Datum} {f : SequenceFile} (h : sequenceFile d = valid f) :
    ∀ p ∈ f.operations, p.IsSound := by
  obtain ⟨entries, h⟩ := exists_of_record h
  simp only [seq_eq_valid, map_eq_valid] at h
  obtain ⟨_, ⟨_, ⟨_, -, rfl⟩, settings, -, rfl⟩, operations, hoperations, rfl⟩ := h
  intro p hp
  rcases exists_of_optional hoperations with rfl | ⟨e, he⟩
  · cases hp
  · obtain ⟨e, hprobe⟩ := mem_of_list he p hp
    exact isSound_of_probe hprobe

/-- A document is either refused for its violations, or accepted and built. -/
theorem toSequence_eq (source : String) (d : Datum) :
    toSequence source d = match sequenceFile d with
      | .valid f => .ok f.sequence
      | .invalid violations => .error (.invalidSequence source violations) := by
  rw [toSequence, check]
  cases h : sequenceFile d with
  | valid f => exact SequenceFile.build_eq (operations_of_sequenceFile h)
  | invalid violations => rfl

theorem toSequence_eq_ok {source : String} {d : Datum} {s : Settings} :
    toSequence source d = .ok s ↔ ∃ f, sequenceFile d = valid f ∧ f.sequence = s := by
  rw [toSequence_eq]
  cases sequenceFile d <;> simp

theorem toSequence_eq_error {source : String} {d : Datum} {v : Violation} {vs : List Violation}
    (h : (sequenceFile d).violations = v :: vs) :
    toSequence source d = .error (.invalidSequence source (v :: vs)) := by
  rw [toSequence_eq]
  cases hfile : sequenceFile d with
  | valid f =>
      rw [hfile] at h
      cases h
  | invalid violations =>
      rw [hfile] at h
      rw [← h]
      rfl

end Document

end TouchProbe
