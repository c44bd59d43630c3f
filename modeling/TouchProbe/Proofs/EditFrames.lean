import TouchProbe.Proofs.NewNames
import TouchProbe.Proofs.ValidEdits

/-!
What an edit leaves alone.  Every edit that is made changes one place of a sequence, and from one
sequence to the next everything but the place in question stays as it was.  In a run of edits all
probe operations and steps pass their own checks and have ids, which is what the frames of the edits
ask for.
-/

namespace TouchProbe

open Naming

namespace Edit

/-! ### What an edit touches -/

/-- What a probe operation is updated to keeps all fields that the changes do not name. -/
structure Updates (changes : ProbeFields) (p q : Probe) : Prop where
  axis : changes.axis = none → q.axis = p.axis
  direction : changes.direction = none → q.direction = p.direction
  distance : changes.distance = none → q.distance = p.distance
  feedRate : changes.feedRate = none → q.feedRate = p.feedRate
  backoff : changes.backoff = none → q.backoff = p.backoff
  offset : changes.offset = none → q.offset = p.offset
  preMoves : changes.preMoves = none → q.preMoves = p.preMoves
  postMoves : changes.postMoves = none → q.postMoves = p.postMoves
  id : changes.id = none → q.id = p.id

theorem eq_of_lengthOf_scalar {what : String} {s t : Scalar} (h : lengthOf what (.scalar s) = .ok t) :
    t = s := by
  obtain ⟨u, hu, h⟩ := bind_eq_ok.1 h
  obtain rfl := Except.ok.inj hu
  obtain ⟨negative, -, h⟩ := bind_eq_ok.1 h
  split at h
  · cases h
  · exact (Except.ok.inj h).symm

theorem eq_of_directionOf_scalar {what : String} {s t : Scalar}
    (h : directionOf what (.scalar s) = .ok t) : t = s := by
  rw [directionOf] at h
  split at h
  · exact (Except.ok.inj h).symm
  · cases h

theorem eq_of_override {α : Type} {new : Option α} {old d : α} (h : (new <|> some old) = some d)
    (hnone : new = none) : d = old := by
  rw [hnone] at h
  exact (Option.some.inj h).symm

theorem updates_of_build {p q : Probe} {changes : ProbeFields}
    (h : Probe.build (p.fields.override changes) = .ok q) : Updates changes p q := by
  have hbuilds := Probe.builds_of_build h
  obtain ⟨axis, haxis, hname⟩ := hbuilds.axis
  obtain ⟨direction, hdirection, hsign⟩ := hbuilds.direction
  obtain ⟨distance, hdistance, htravel⟩ := hbuilds.distance
  obtain ⟨backoff, hbackoff, hretreat⟩ := hbuilds.backoff
  exact {
    axis := fun hnone => by
      rw [eq_of_override haxis hnone, Axis.ofDatum_name] at hname
      exact (Except.ok.inj hname).symm
    direction := fun hnone => by
      rw [eq_of_override hdirection hnone] at hsign
      exact eq_of_directionOf_scalar hsign
    distance := fun hnone => by
      rw [eq_of_override hdistance hnone] at htravel
      exact eq_of_lengthOf_scalar htravel
    feedRate := eq_of_override hbuilds.feedRate
    backoff := fun hnone => by
      rw [eq_of_override hbackoff hnone] at hretreat
      exact eq_of_lengthOf_scalar hretreat
    offset := fun hnone => by
      rw [hbuilds.offset, ProbeFields.override, hnone]
      rfl
    preMoves := fun hnone => by
      rw [hbuilds.preMoves, ProbeFields.override, hnone]
      rfl
    postMoves := fun hnone => by
      rw [hbuilds.postMoves, ProbeFields.override, hnone]
      rfl
    id := fun hnone => by
      rw [hbuilds.id, ProbeFields.override, hnone]
      rfl }

def Command.Touches : Command → List Probe → List Probe → Prop
  | addProbe _ _, ps, qs => ∃ p, qs = ps ++ [p]
  | updateProbe id changes, ps, qs => AtFirst (·.id.isNamed id) (Updates changes) ps qs
  | removeProbe id, ps, qs => ∃ before p after, IsFirst (·.id.isNamed id) before p ∧
      ps = before ++ p :: after ∧ qs = before ++ after
  | moveProbe _ _, ps, qs => ∃ i j, i < ps.length ∧ j < ps.length ∧ qs[j]? = ps[i]? ∧
      qs.eraseIdx j = ps.eraseIdx i
  | addMovement id which step, ps, qs => ∃ side, Side.ofDatum which = .ok side ∧
      AtFirst (·.id.isNamed id) (fun p q => ∃ s, NamesStep (step.getD side.usualStep) s ∧
        q = side.withMoves p (side.moves p ++ [s])) ps qs
  | updateMovement id stepId which _ changes, ps, qs => ∃ side, Side.ofDatum which = .ok side ∧
      AtFirst (·.id.isNamed id) (fun p q => ∃ moves,
        AtFirst (·.id.isNamed stepId) (Changes changes) (side.moves p) moves ∧
        q = side.withMoves p moves) ps qs
  | removeMovement id stepId which, ps, qs => ∃ side, Side.ofDatum which = .ok side ∧
      AtFirst (·.id.isNamed id) (fun p q => (∃ m ∈ side.moves p, m.id.isNamed stepId = true) ∧
        q = side.withMoves p ((side.moves p).filter fun m => !m.id.isNamed stepId)) ps qs

theorem Updates.nameProbe {changes : ProbeFields} {p q : Probe} (h : Updates changes p q)
    (hp : p.IsNamed) (endings : Nat → String) (first : Nat) :
    Updates changes p (nameProbe endings first q) where
  axis := h.axis
  direction := h.direction
  distance := h.distance
  feedRate := h.feedRate
  backoff := h.backoff
  offset := h.offset
  preMoves hnone := by
    change nameSteps endings _ q.preMoves = _
    rw [h.preMoves hnone, nameSteps_of_isNamed hp.preMoves]
  postMoves hnone := by
    change nameSteps endings _ q.postMoves = _
    rw [h.postMoves hnone, nameSteps_of_isNamed hp.postMoves]
  id hnone := by
    change q.id.orNamed _ = _
    rw [h.id hnone, Ident.orNamed_of_ne hp.id]

theorem Changes.nameStep {changes : StepFields} {s t : Step} (h : Changes changes s t) (hs : s.IsNamed)
    (ending : String) : Changes changes s (nameStep ending t) := by
  refine ⟨passes_nameStep h.passes ending, fun hnone => ?_, fun hnone => ?_⟩
  · have hid := h.id hnone
    rw [nameStep_of_isNamed (by rwa [Step.IsNamed, hid]), hid]
  · rw [← h.description hnone]
    cases t <;> rfl

/-! ### Moved probe operations -/

theorem lt_of_place {count k : Nat} {index : Int} (h : place count index = .ok k) : k < count := by
  rw [place] at h
  split at h
  · next hrange =>
    obtain rfl := Except.ok.inj h
    have hpos : (0 : Int) < count := by omega
    have hlt := Int.emod_lt_of_pos index hpos
    have hle := Int.emod_nonneg index hpos.ne'
    omega
  · cases h

theorem take_append_drop_eq_insertIdx {α : Type} {as : List α} {j : Nat} (h : j ≤ as.length) (a : α) :
    as.take j ++ [a] ++ as.drop j = as.insertIdx j a := by
  induction as generalizing j with
  | nil =>
      obtain rfl := Nat.le_zero.1 h
      rfl
  | cons b as ih =>
      cases j with
      | zero => rfl
      | succ j => simpa using ih (Nat.le_of_succ_le_succ h)

theorem le_length_eraseIdx {α : Type} {as : List α} {i j : Nat} (hi : i < as.length)
    (hj : j < as.length) : j ≤ (as.eraseIdx i).length := by
  rw [List.length_eraseIdx_of_lt hi]
  omega

/-- A probe operation that is moved is taken out at one place and put in at another one. -/
theorem moveProbe_eq_ok {source destination : Int} {ps qs : List Probe} :
    moveProbe source destination ps = .ok qs ↔
      ∃ i j p, place ps.length source = .ok i ∧ place ps.length destination = .ok j ∧
        ps[i]? = some p ∧ qs = (ps.eraseIdx i).insertIdx j p := by
  have hmoved {i j : Nat} {p : Probe} (hi : ps[i]? = some p) (hj : j < ps.length) :
      (ps.eraseIdx i).take j ++ (ps.drop i).take 1 ++ (ps.eraseIdx i).drop j =
        (ps.eraseIdx i).insertIdx j p := by
    obtain ⟨hlt, rfl⟩ := List.getElem?_eq_some_iff.1 hi
    rw [List.drop_eq_getElem_cons hlt, List.take_succ_cons, List.take_zero,
      take_append_drop_eq_insertIdx (le_length_eraseIdx hlt hj)]
  constructor
  · intro h
    obtain ⟨i, hi, h⟩ := bind_eq_ok.1 h
    obtain ⟨j, hj, h⟩ := bind_eq_ok.1 h
    obtain rfl := Except.ok.inj h
    have hp := List.getElem?_eq_getElem (lt_of_place hi)
    exact ⟨i, j, _, hi, hj, hp, hmoved hp (lt_of_place hj)⟩
  · rintro ⟨i, j, p, hi, hj, hp, rfl⟩
    rw [← hmoved hp (lt_of_place hj), moveProbe, hi, hj]
    rfl

theorem moved_of_moveProbe {source destination : Int} {ps qs : List Probe}
    (h : moveProbe source destination ps = .ok qs) :
    ∃ i j, i < ps.length ∧ j < ps.length ∧ qs[j]? = ps[i]? ∧ qs.eraseIdx j = ps.eraseIdx i := by
  obtain ⟨i, j, p, hi, hj, hp, rfl⟩ := moveProbe_eq_ok.1 h
  have hi := lt_of_place hi
  have hj := lt_of_place hj
  refine ⟨i, j, hi, hj, ?_, List.eraseIdx_insertIdx_self p⟩
  rw [List.getElem?_insertIdx_self, if_pos (le_length_eraseIdx hi hj), hp]

theorem moved_of_moveProbeBy {source destination : Datum} {ps qs : List Probe}
    (h : moveProbeBy source destination ps = .ok qs) :
    ∃ i j, i < ps.length ∧ j < ps.length ∧ qs[j]? = ps[i]? ∧ qs.eraseIdx j = ps.eraseIdx i := by
  obtain ⟨m, -, h⟩ := bind_eq_ok.1 h
  obtain ⟨n, -, h⟩ := bind_eq_ok.1 h
  split at h
  · exact moved_of_moveProbe h
  · cases h

/-! ### Frames -/

section Frames

variable {ps qs : List Probe} (hps : ∀ p ∈ ps, p.IsNamed) (endings : Nat → String)

include hps

theorem touches_addProbe {template given : ProbeFields} (h : addProbe template given ps = .ok qs) :
    (Command.addProbe template given).Touches ps (nameProbes endings 0 qs) := by
  obtain ⟨p, -, h⟩ := bind_eq_ok.1 h
  obtain rfl := Except.ok.inj h
  obtain ⟨q, -, hq⟩ := around_of_forall₂ eq_of_namesProbe hps (by simp)
    (names_nameProbes endings (ps ++ [p]))
  exact ⟨q, hq⟩

theorem touches_updateProbe {id : Datum} {changes : ProbeFields}
    (h : updateProbe id changes ps = .ok qs) :
    (Command.updateProbe id changes).Touches ps (nameProbes endings 0 qs) := by
  refine (atFirst_of_changeFirst h).nameProbes hps endings fun p q k hp hq => ?_
  exact (updates_of_build hq).nameProbe hp endings k

/-- Nothing is new after a removal, so no name is made up. -/
theorem touches_removeProbe {id : Datum} (h : removeProbe id ps = .ok qs) :
    (Command.removeProbe id).Touches ps (nameProbes endings 0 qs) := by
  have hqs : ∀ q ∈ qs, q.IsNamed := fun q hq => hps q (mem_of_removeProbe h q hq)
  rw [nameProbes_of_isNamed hqs]
  rw [removeProbe] at h
  split at h
  · next hany =>
    obtain rfl := Except.ok.inj h
    exact exists_eraseP hany
  · cases h

theorem touches_moveProbe {source destination : Datum}
    (h : moveProbeBy source destination ps = .ok qs) :
    (Command.moveProbe source destination).Touches ps (nameProbes endings 0 qs) := by
  have hqs : ∀ q ∈ qs, q.IsNamed := fun q hq => hps q (mem_of_moveProbeBy h q hq)
  rw [nameProbes_of_isNamed hqs]
  exact moved_of_moveProbeBy h

/-- The only name that is made up is that of the step that is added. -/
theorem touches_addMovement {id which : Datum} {step : Option Step}
    (h : addMovement id which step ps = .ok qs) :
    (Command.addMovement id which step).Touches ps (nameProbes endings 0 qs) := by
  obtain ⟨side, hside, h⟩ := bind_eq_ok.1 h
  refine ⟨side, hside, (atFirst_of_changeFirst h).nameProbes hps endings fun p q k hp hq => ?_⟩
  obtain rfl := Except.ok.inj hq
  obtain ⟨j, hj⟩ := nameProbe_withMoves hp endings k side
    (side.moves p ++ [step.getD side.usualStep])
  obtain ⟨s, hs, hms⟩ := around_of_forall₂ eq_of_names (hp.moves side) (by simp)
    (names_nameSteps endings j (side.moves p ++ [step.getD side.usualStep]))
  exact ⟨s, hs, by rw [hj, hms]⟩

theorem touches_updateMovement {id stepId which : Datum} {kind : Option Datum}
    {changes : StepFields} (h : updateMovement id stepId which kind changes ps = .ok qs) :
    (Command.updateMovement id stepId which kind changes).Touches ps
      (nameProbes endings 0 qs) := by
  obtain ⟨side, hside, h⟩ := bind_eq_ok.1 h
  refine ⟨side, hside, (atFirst_of_changeFirst h).nameProbes hps endings fun p q k hp hq => ?_⟩
  obtain ⟨moves, hmoves, hq⟩ := bind_eq_ok.1 hq
  obtain rfl := Except.ok.inj hq
  obtain ⟨j, hj⟩ := nameProbe_withMoves hp endings k side moves
  refine ⟨_, (atFirst_of_changeFirst hmoves).nameSteps (hp.moves side) endings j ?_, hj⟩
  exact fun s t ending hs ht => (changes_of_changeStep ht).nameStep hs ending

theorem touches_removeMovement {id stepId which : Datum}
    (h : removeMovement id stepId which ps = .ok qs) :
    (Command.removeMovement id stepId which).Touches ps (nameProbes endings 0 qs) := by
  obtain ⟨side, hside, h⟩ := bind_eq_ok.1 h
  refine ⟨side, hside, (atFirst_of_changeFirst h).nameProbes hps endings fun p q k hp hq => ?_⟩
  split at hq
  · next hany =>
    obtain rfl := Except.ok.inj hq
    obtain ⟨j, hj⟩ := nameProbe_withMoves hp endings k side
      ((side.moves p).filter fun m => !m.id.isNamed stepId)
    refine ⟨List.any_eq_true.1 hany, ?_⟩
    rw [hj, nameSteps_of_isNamed]
    exact fun m hm => hp.moves side m (List.mem_of_mem_filter hm)
  · cases hq

/-- Every edit that is made touches only what it is about. -/
theorem touches_of_apply {c : Command} (h : c.apply ps = .ok qs) :
    c.Touches ps (nameProbes endings 0 qs) := by
  cases c with
  | addProbe template given => exact touches_addProbe hps endings h
  | updateProbe id changes => exact touches_updateProbe hps endings h
  | removeProbe id => exact touches_removeProbe hps endings h
  | moveProbe source destination => exact touches_moveProbe hps endings h
  | addMovement id which step => exact touches_addMovement hps endings h
  | updateMovement id stepId which kind changes => exact touches_updateMovement hps endings h
  | removeMovement id stepId which => exact touches_removeMovement hps endings h

end Frames

/-! ### Runs -/

/-- A sequence of a run: its probe operations and steps pass their own checks, and their ids are
there. -/
structure IsSequence (ps : List Probe) : Prop where
  valid : ∀ p ∈ ps, p.IsValid
  named : ∀ p ∈ ps, p.IsNamed

theorem IsSequence.next {ps : List Probe} (h : IsSequence ps) {c : Command} (hc : c.IsValid)
    (endings : Nat → String) : IsSequence (c.next endings ps) := by
  rw [Command.next]
  split
  · next qs hqs =>
    have hvalid := forall_apply isOfMoves_isValid (keeps_isValid hc) h.valid hqs
    exact ⟨isValid_nameProbes hvalid endings, isNamed_nameProbes qs endings⟩
  · exact h

/-- An edit either fails, and the sequence stays as it was, or is made and touches what it is
about. -/
theorem next_cases {ps : List Probe} (h : IsSequence ps) (c : Command) (endings : Nat → String) :
    (∃ f, c.apply ps = .error f) ∧ c.next endings ps = ps ∨
      (∃ qs, c.apply ps = .ok qs) ∧ c.Touches ps (c.next endings ps) := by
  rw [Command.next]
  cases happly : c.apply ps with
  | ok qs => exact .inr ⟨⟨qs, rfl⟩, touches_of_apply h.named endings happly⟩
  | error f => exact .inl ⟨⟨f, rfl⟩, rfl⟩

theorem isSequence_run {edits : List (Command × (Nat → String))} (hedits : ∀ e ∈ edits, e.1.IsValid)
    {ps : List Probe} (h : IsSequence ps) : IsSequence (run edits ps) := by
  induction edits generalizing ps with
  | nil => exact h
  | cons e edits ih =>
      obtain ⟨he, hedits⟩ := List.forall_mem_cons.1 hedits
      exact ih hedits (h.next he e.2)

theorem run_append (done rest : List (Command × (Nat → String))) (ps : List Probe) :
    run (done ++ rest) ps = run rest (run done ps) := by
  rw [run, run, run, List.foldl_append]

/-- In a run of edits every sequence consists of probe operations and steps that pass their own
checks, and every edit either fails, and the sequence stays as it was, or touches only what it is
about. -/
theorem frames_of_run {edits : List (Command × (Nat → String))} (hedits : ∀ e ∈ edits, e.1.IsValid)
    {ps : List Probe} (hps : IsSequence ps) :
    (∀ n, ∀ p ∈ run (edits.take n) ps, p.IsValid) ∧
      ∀ done c endings later, edits = done ++ (c, endings) :: later →
        (∃ f, c.apply (run done ps) = .error f) ∧ run (done ++ [(c, endings)]) ps = run done ps ∨
        (∃ qs, c.apply (run done ps) = .ok qs) ∧
          c.Touches (run done ps) (run (done ++ [(c, endings)]) ps) := by
  constructor
  · intro n
    exact (isSequence_run (fun e he => hedits e (List.mem_of_mem_take he)) hps).valid
  · rintro done c endings later rfl
    rw [run_append]
    exact next_cases (isSequence_run (List.forall_mem_append.1 hedits).1 hps) c endings

/-- A probe operation along an axis, with one move before it. -/
def twin (axis : Axis) : Probe where
  axis
  direction := .int (-1)
  distance := .int 2
  feedRate := .int 50
  backoff := .int 1
  offset := .int 0
  preMoves := [nameStep "a" Side.pre.usualStep]
  postMoves := []
  id := .given (.text "p")

theorem isValid_twin (axis : Axis) : (twin axis).IsValid where
  passes := Probe.passes rfl rfl rfl
  preMoves := List.forall_mem_singleton.2 (Step.passes_rapid _)
  postMoves := by simp [twin]

theorem isNamed_twin (axis : Axis) : (twin axis).IsNamed where
  id := Ident.noConfusion
  preMoves := List.forall_mem_singleton.2 (isNamed_nameStep _ _)
  postMoves := by simp [twin]

theorem isSequence_twins : IsSequence [twin .z, twin .x] where
  valid := by simp [isValid_twin]
  named := by simp [isNamed_twin]

/-- The removal of a probe operation, and an update of one that is not there. -/
def twinEdits : List (Command × (Nat → String)) :=
  [(.removeProbe (.text "p"), fun _ => "b"), (.updateProbe (.text "q") {}, fun _ => "c")]

/-- Of two probe operations with one id the first is removed, and an edit that fails leaves the
other. -/
theorem frames_of_run_twins :
    (∀ n, ∀ p ∈ run (twinEdits.take n) [twin .z, twin .x], p.IsValid) ∧
      (Command.removeProbe (.text "p")).Touches [twin .z, twin .x]
        (run (twinEdits.take 1) [twin .z, twin .x]) ∧
      run twinEdits [twin .z, twin .x] = run (twinEdits.take 1) [twin .z, twin .x] := by
  have hedits : ∀ e ∈ twinEdits, e.1.IsValid := by
    simp only [twinEdits, List.forall_mem_cons]
    exact ⟨trivial, ⟨of_mem_none, of_mem_none⟩, by simp⟩
  obtain ⟨hvalid, hframes⟩ := frames_of_run hedits isSequence_twins
  have hmade : ((Command.removeProbe (.text "p")).apply (run [] [twin .z, twin .x])).isOk = true := by
    decide +kernel
  have hfails : ((Command.updateProbe (.text "q") {}).apply
      (run (twinEdits.take 1) [twin .z, twin .x])).isOk = false := by
    decide +kernel
  refine ⟨hvalid, ?_, ?_⟩
  · rcases hframes [] _ _ _ rfl with ⟨⟨f, hf⟩, -⟩ | ⟨-, htouches⟩
    · rw [hf] at hmade
      cases hmade
    · exact htouches
  · rcases hframes (twinEdits.take 1) _ _ _ rfl with ⟨-, hsame⟩ | ⟨⟨qs, hqs⟩, -⟩
    · exact hsame
    · rw [hqs] at hfails
      cases hfails

end Edit

end TouchProbe
