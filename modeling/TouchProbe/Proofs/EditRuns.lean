import TouchProbe.Proofs.AcceptedDocuments
import TouchProbe.Proofs.Exponents
import TouchProbe.Sequence.Edit

/-!
Runs of edits.  An edit with values of the declared types leaves only probe operations that can be
stored, and one that fails leaves what was there, so the sequence at the end of a run has a
document.  No edit looks at the feed rates: the document is accepted just when they are above zero.
-/

namespace TouchProbe

open Number
open Program (floatOf same_of_number)

/-! ### Lengths -/

/-- Whether a value is a number that is equal to its float and is either below zero or not. -/
structure Datum.IsMeasure (d : Datum) : Prop where
  exact : d.IsExact
  compares : floatOf d < zero ∨ zero ≤ floatOf d

theorem Datum.isMeasure_float {x : Float} (h : x.isFinite = true) : (Datum.float x).IsMeasure := by
  obtain ⟨negative, m, e, hparts⟩ := exists_parts_of_isFinite h
  refine ⟨Datum.isExact_float x, ?_⟩
  change x < zero ∨ zero ≤ x
  rw [lt_zero_iff hparts, zero_le_iff hparts]
  by_cases hm : m = 0
  · exact .inr (.inr hm)
  · cases negative with
    | true => exact .inl ⟨rfl, hm⟩
    | false => exact .inr (.inl rfl)

/-- A float that is equal to a whole number is below zero only if the whole number is. -/
theorem not_lt_zero_of_same {k : Int} {x : Float} (h : (Number.whole k).same (.real x) = true)
    (hk : 0 ≤ k) : ¬ x < zero := by
  have hnull := isNull_of_same h
  simp only [Number.same, Bool.and_eq_true, beq_iff_eq] at h
  obtain ⟨-, htruncate⟩ := h
  cases hparts : parts x with
  | nan => simp [truncate?, hparts] at htruncate
  | infinite negative => simp [truncate?, hparts] at htruncate
  | finite negative m e =>
      rw [lt_zero_iff hparts]
      rintro ⟨rfl, hm⟩
      simp only [truncate?, hparts, Option.some.injEq, signed, if_true] at htruncate
      generalize (ratio m e).1 / (ratio m e).2 = q at htruncate
      have hzero : k = 0 := by omega
      rw [hzero, isZero, hparts] at hnull
      exact hm (by simpa [Number.isNull] using hnull.symm)

/-- A scalar that is equal to its float is below zero if the float is. -/
theorem isNegative_of_lt {s : Scalar} {n : Number} (hs : s.number? = some n)
    (h : (Datum.scalar s).IsExact) (hlt : floatOf (.scalar s) < zero) : n.isNegative = true := by
  cases n with
  | real x =>
      obtain rfl : s = .float x := by cases s <;> simp_all [Scalar.number?]
      exact decide_eq_true hlt
  | whole k =>
      rw [Number.isNegative, decide_eq_true_eq]
      by_contra hk
      rcases h.equal with hequal | hequal
      · rw [Datum.scalar.inj hequal] at hs
        cases hs
      · rw [Datum.same, same_of_number hs rfl] at hequal
        exact not_lt_zero_of_same hequal (by omega) hlt

theorem length_of_lengthOf {what : String} {d : Datum} {s : Scalar} (hd : d.IsMeasure)
    (h : lengthOf what d = .ok s) : (Datum.scalar s).IsExact ∧ zero ≤ floatOf (.scalar s) := by
  cases d with
  | scalar t =>
      obtain ⟨n, hn⟩ := exists_number hd.exact.number
      have hsign : t.isNegative = .ok n.isNegative := by
        rw [Scalar.isNegative, Scalar.toNumber, hn]
        rfl
      rw [lengthOf, Datum.toScalar] at h
      obtain ⟨_, ht, h⟩ := bind_eq_ok.1 h
      obtain rfl := Except.ok.inj ht
      obtain ⟨negative, hnegative, h⟩ := bind_eq_ok.1 h
      rw [hsign] at hnegative
      obtain rfl := Except.ok.inj hnegative
      split at h
      · cases h
      · next hnot =>
        obtain rfl := Except.ok.inj h
        exact ⟨hd.exact, hd.compares.resolve_left fun hlt => hnot (isNegative_of_lt hn hd.exact hlt)⟩
  | _ => cases hd.exact.number

/-! ### Values of the declared types -/

/-- Whether the fields of a step have the types that are declared for them. -/
structure StepFields.IsTyped (f : StepFields) : Prop where
  axes : ∀ d ∈ f.axes, ∃ entries, d = .mapping entries ∧ ∀ e ∈ entries, e.2.IsExact
  time : ∀ d ∈ f.time, d.IsMeasure
  description : ∀ d ∈ f.description, ∃ s, d = .text s
  id : ∀ i ∈ f.id, i.IsStorable

structure ProbeFields.IsTyped (f : ProbeFields) : Prop where
  direction : ∀ d ∈ f.direction, ∃ n : Int, d = .int n
  distance : ∀ d ∈ f.distance, d.IsMeasure
  feedRate : ∀ d ∈ f.feedRate, d.IsExact
  backoff : ∀ d ∈ f.backoff, d.IsMeasure
  offset : ∀ d ∈ f.offset, d.IsExact
  preMoves : ∀ moves ∈ f.preMoves, ∀ m ∈ moves, m.IsStorable
  postMoves : ∀ moves ∈ f.postMoves, ∀ m ∈ moves, m.IsStorable
  id : ∀ i ∈ f.id, i.IsStorable

theorem forall_mem_orElse {α : Type} {P : α → Prop} {a b : Option α} (ha : ∀ x ∈ a, P x)
    (hb : ∀ x ∈ b, P x) : ∀ x ∈ (a <|> b), P x := by
  cases a with
  | some y => exact ha
  | none => exact hb

theorem of_mem_some {α : Type} {P : α → Prop} {a : α} (h : P a) : ∀ x ∈ some a, P x := by
  intro x hx
  obtain rfl := Option.some.inj hx
  exact h

theorem of_mem_none {α : Type} {P : α → Prop} : ∀ x ∈ (none : Option α), P x := by
  intro x hx
  cases hx

theorem getD_of_forall {α : Type} {P : α → Prop} {o : Option α} {usual : α} (h : ∀ x ∈ o, P x)
    (husual : P usual) : P (o.getD usual) := by
  cases o with
  | some a => exact h a rfl
  | none => exact husual

theorem required_eq_ok {α : Type} {o : Option α} {a : α} : required o = .ok a ↔ o = some a := by
  cases o <;> simp [required]

theorem StepFields.IsTyped.empty : ({} : StepFields).IsTyped := by
  constructor <;> exact of_mem_none

theorem ProbeFields.IsTyped.empty : ({} : ProbeFields).IsTyped := by
  constructor <;> exact of_mem_none

theorem StepFields.IsTyped.override {f g : StepFields} (hf : f.IsTyped) (hg : g.IsTyped) :
    (f.override g).IsTyped where
  axes := forall_mem_orElse hg.axes hf.axes
  time := forall_mem_orElse hg.time hf.time
  description := forall_mem_orElse hg.description hf.description
  id := forall_mem_orElse hg.id hf.id

theorem ProbeFields.IsTyped.override {f g : ProbeFields} (hf : f.IsTyped) (hg : g.IsTyped) :
    (f.override g).IsTyped where
  direction := forall_mem_orElse hg.direction hf.direction
  distance := forall_mem_orElse hg.distance hf.distance
  feedRate := forall_mem_orElse hg.feedRate hf.feedRate
  backoff := forall_mem_orElse hg.backoff hf.backoff
  offset := forall_mem_orElse hg.offset hf.offset
  preMoves := forall_mem_orElse hg.preMoves hf.preMoves
  postMoves := forall_mem_orElse hg.postMoves hf.postMoves
  id := forall_mem_orElse hg.id hf.id

/-! ### What is built from them -/

theorem isTyped_stepFields {s : Step} (h : s.IsStorable) : s.fields.IsTyped := by
  cases s with
  | rapid r =>
      obtain ⟨hid, hdescription, vs, hvs, hnumbers⟩ := h
      refine ⟨of_mem_some ⟨_, by rw [hvs]; rfl, ?_⟩, of_mem_none, of_mem_some hdescription,
        of_mem_some hid⟩
      rw [List.forall_mem_map]
      exact hnumbers
  | dwell d =>
      obtain ⟨hid, hdescription, htime, hsign⟩ := h
      exact ⟨of_mem_none, of_mem_some ⟨htime, .inr hsign⟩, of_mem_some hdescription, of_mem_some hid⟩

theorem isStorable_of_rapid {f : StepFields} {r : Rapid} (hf : f.IsTyped)
    (h : Rapid.build f = .ok r) : (Step.rapid r).IsStorable := by
  rw [Rapid.build] at h
  split at h
  · cases h
  · obtain ⟨axes, haxes, h⟩ := bind_eq_ok.1 h
    obtain ⟨mode, -, h⟩ := bind_eq_ok.1 h
    obtain ⟨system, -, h⟩ := bind_eq_ok.1 h
    obtain rfl := Except.ok.inj h
    obtain ⟨entries, hentries, hnumbers⟩ : ∃ entries, f.axes.getD (.mapping []) = .mapping entries ∧
        ∀ e ∈ entries, e.2.IsExact := getD_of_forall hf.axes ⟨[], rfl, by simp⟩
    rw [hentries, RapidAxes.ofDatum] at haxes
    obtain ⟨names, -, haxes⟩ := bind_eq_ok.1 haxes
    obtain rfl := Except.ok.inj haxes
    refine ⟨getD_of_forall hf.id (.inl rfl), getD_of_forall hf.description ⟨_, rfl⟩, _, rfl, ?_⟩
    -- Of an axis that occurs twice the last value counts, so each value is one of those that were
    -- given.
    intro e he
    obtain ⟨d, hd, hvalue⟩ := List.mem_map.1 (List.of_mem_zip (ByAxis.mem_of_mem_ofList he)).2
    rw [← hvalue]
    exact hnumbers d hd

theorem isStorable_of_dwell {f : StepFields} {d : Dwell} (hf : f.IsTyped)
    (h : Dwell.build f = .ok d) : (Step.dwell d).IsStorable := by
  rw [Dwell.build] at h
  split at h
  · cases h
  · obtain ⟨value, hvalue, h⟩ := bind_eq_ok.1 h
    obtain ⟨time, htime, h⟩ := bind_eq_ok.1 h
    obtain rfl := Except.ok.inj h
    have hlength := length_of_lengthOf (hf.time value (required_eq_ok.1 hvalue)) htime
    exact ⟨getD_of_forall hf.id (.inl rfl), getD_of_forall hf.description ⟨_, rfl⟩, hlength⟩

theorem isTyped_probeFields {p : Probe} (h : p.IsStorable) : p.fields.IsTyped where
  direction := by
    apply of_mem_some
    rcases h.direction with hd | hd
    · exact ⟨1, congrArg Datum.scalar hd⟩
    · exact ⟨-1, congrArg Datum.scalar hd⟩
  distance := of_mem_some ⟨h.distance, .inr h.distance_nonneg⟩
  feedRate := of_mem_some h.feedRate
  backoff := of_mem_some ⟨h.backoff, .inr h.backoff_nonneg⟩
  offset := of_mem_some h.offset
  preMoves := of_mem_some h.preMoves
  postMoves := of_mem_some h.postMoves
  id := of_mem_some h.id

theorem unit_of_directionOf {what : String} {n : Int} {s : Scalar}
    (h : directionOf what (.int n) = .ok s) : s = .int 1 ∨ s = .int (-1) := by
  rw [directionOf] at h
  split at h
  · next hunit =>
    obtain rfl := Except.ok.inj h
    rw [Scalar.isUnit, Bool.or_eq_true] at hunit
    exact hunit.imp (fun h => congrArg Scalar.int (beq_iff_eq.1 h)) fun h =>
      congrArg Scalar.int (beq_iff_eq.1 h)
  · cases h

theorem isStorable_of_build {f : ProbeFields} {p : Probe} (hf : f.IsTyped)
    (h : Probe.build f = .ok p) : p.IsStorable := by
  rw [Probe.build] at h
  split at h
  · cases h
  · obtain ⟨_, -, h⟩ := bind_eq_ok.1 h
    obtain ⟨direction, hdirection, h⟩ := bind_eq_ok.1 h
    obtain ⟨distance, hdistance, h⟩ := bind_eq_ok.1 h
    obtain ⟨feedRate, hfeedRate, h⟩ := bind_eq_ok.1 h
    obtain ⟨backoff, hbackoff, h⟩ := bind_eq_ok.1 h
    rw [required_eq_ok] at hdirection hdistance hfeedRate hbackoff
    obtain ⟨axis, -, h⟩ := bind_eq_ok.1 h
    obtain ⟨sign, hsign, h⟩ := bind_eq_ok.1 h
    obtain ⟨travel, htravel, h⟩ := bind_eq_ok.1 h
    obtain ⟨retreat, hretreat, h⟩ := bind_eq_ok.1 h
    obtain rfl := Except.ok.inj h
    obtain ⟨n, rfl⟩ := hf.direction direction hdirection
    have htravel := length_of_lengthOf (hf.distance distance hdistance) htravel
    have hretreat := length_of_lengthOf (hf.backoff backoff hbackoff) hretreat
    exact {
      id := getD_of_forall hf.id (.inl rfl)
      direction := unit_of_directionOf hsign
      distance := htravel.1
      distance_nonneg := htravel.2
      feedRate := hf.feedRate feedRate hfeedRate
      backoff := hretreat.1
      backoff_nonneg := hretreat.2
      offset := getD_of_forall hf.offset (Datum.isExact_float zero)
      preMoves := getD_of_forall hf.preMoves (by simp)
      postMoves := getD_of_forall hf.postMoves (by simp) }

namespace Edit

/-! ### One edit -/

inductive Command where
  | addProbe (template given : ProbeFields)
  | updateProbe (id : Datum) (changes : ProbeFields)
  | removeProbe (id : Datum)
  | moveProbe (source destination : Datum)
  | addMovement (id side : Datum) (step : Option Step)
  | updateMovement (id stepId side : Datum) (kind : Option Datum) (changes : StepFields)
  | removeMovement (id stepId side : Datum)

namespace Command

def apply : Command → List Probe → Except Fault (List Probe)
  | addProbe template given => Edit.addProbe template given
  | updateProbe id changes => Edit.updateProbe id changes
  | removeProbe id => Edit.removeProbe id
  | moveProbe source destination => moveProbeBy source destination
  | addMovement id side step => Edit.addMovement id side step
  | updateMovement id stepId side kind changes => Edit.updateMovement id stepId side kind changes
  | removeMovement id stepId side => Edit.removeMovement id stepId side

def IsTyped : Command → Prop
  | addProbe template given => template.IsTyped ∧ given.IsTyped
  | updateProbe _ changes => changes.IsTyped
  | addMovement _ _ step => ∀ s ∈ step, s.IsStorable
  | updateMovement _ _ _ _ changes => changes.IsTyped
  | removeProbe _ | moveProbe _ _ | removeMovement _ _ _ => True

end Command

theorem forall_of_changeFirst {α : Type} {P : α → Prop} {test : α → Bool} {missing : Fault}
    {change : α → Except Fault α} (hchange : ∀ a b, P a → change a = .ok b → P b) {as bs : List α}
    (has : ∀ a ∈ as, P a) (h : changeFirst test missing change as = .ok bs) : ∀ b ∈ bs, P b := by
  induction as generalizing bs with
  | nil => cases h
  | cons a as ih =>
      obtain ⟨ha, has⟩ := List.forall_mem_cons.1 has
      rw [changeFirst] at h
      split at h
      · obtain ⟨b, hb, rfl⟩ := map_eq_ok.1 h
        exact List.forall_mem_cons.2 ⟨hchange a b ha hb, has⟩
      · obtain ⟨cs, hcs, rfl⟩ := map_eq_ok.1 h
        exact List.forall_mem_cons.2 ⟨ha, ih has hcs⟩

theorem isTyped_usualProbe : usualProbe.IsTyped :=
  { ProbeFields.IsTyped.empty with
    direction := of_mem_some ⟨-1, rfl⟩
    distance := of_mem_some (Datum.isMeasure_float (by decide +kernel))
    feedRate := of_mem_some (Datum.isExact_float _)
    backoff := of_mem_some (Datum.isMeasure_float (by decide +kernel))
    offset := of_mem_some (Datum.isExact_float _) }

theorem isStorable_usualStep (side : Side) : side.usualStep.IsStorable :=
  ⟨.inl rfl, by cases side <;> exact ⟨_, rfl⟩, .empty, rfl, fun e he => by cases he⟩

theorem isTyped_keptFields {s : Step} (h : s.IsStorable) : (keptFields s).IsTyped := by
  have hfields := isTyped_stepFields h
  refine ⟨of_mem_none, of_mem_none, ?_, ?_⟩
  · cases s <;> exact hfields.description
  · cases s <;> exact hfields.id

theorem isTyped_asRapid {s : Step} (h : s.IsStorable) :
    StepFields.IsTyped { keptFields s with mode := some (.text PositionMode.relative.name) } :=
  { isTyped_keptFields h with }

theorem isTyped_asDwell {s : Step} (h : s.IsStorable) :
    StepFields.IsTyped { keptFields s with time := some (decimal false 1 0) } :=
  { isTyped_keptFields h with time := of_mem_some (Datum.isMeasure_float (by decide +kernel)) }

theorem isStorable_changeStep {kind : Option Datum} {changes : StepFields} (hchanges : changes.IsTyped)
    {s t : Step} (hs : s.IsStorable) (h : changeStep kind changes s = .ok t) : t.IsStorable := by
  have hfields := isTyped_stepFields hs
  simp only [changeStep] at h
  split at h
  · cases h
  · -- A step of its own kind keeps all fields; one of the other kind is built from what every step has.
    split at h
    · obtain ⟨r, hr, h⟩ := bind_eq_ok.1 h
      obtain rfl := Except.ok.inj h
      exact isStorable_of_rapid (hfields.override hchanges) hr
    · obtain ⟨d, hd, h⟩ := bind_eq_ok.1 h
      obtain rfl := Except.ok.inj h
      exact isStorable_of_dwell (hfields.override hchanges) hd
    · obtain ⟨r, hr, h⟩ := bind_eq_ok.1 h
      obtain rfl := Except.ok.inj h
      exact isStorable_of_rapid ((isTyped_asRapid hs).override hchanges) hr
    · obtain ⟨d, hd, h⟩ := bind_eq_ok.1 h
      obtain rfl := Except.ok.inj h
      exact isStorable_of_dwell ((isTyped_asDwell hs).override hchanges) hd

theorem isStorable_moves {p : Probe} (h : p.IsStorable) (side : Side) :
    ∀ m ∈ side.moves p, m.IsStorable := by
  cases side with
  | pre => exact h.preMoves
  | post => exact h.postMoves

theorem isStorable_withMoves {p : Probe} (h : p.IsStorable) (side : Side) {moves : List Step}
    (hmoves : ∀ m ∈ moves, m.IsStorable) : (side.withMoves p moves).IsStorable := by
  cases side with
  | pre => exact { h with preMoves := hmoves }
  | post => exact { h with postMoves := hmoves }

theorem mem_of_moveProbe {source destination : Int} {ps qs : List Probe}
    (h : moveProbe source destination ps = .ok qs) : ∀ q ∈ qs, q ∈ ps := by
  obtain ⟨i, -, h⟩ := bind_eq_ok.1 h
  obtain ⟨j, -, h⟩ := bind_eq_ok.1 h
  obtain rfl := Except.ok.inj h
  intro q hq
  rcases List.mem_append.1 hq with hq | hq
  · rcases List.mem_append.1 hq with hq | hq
    · exact List.mem_of_mem_eraseIdx (List.mem_of_mem_take hq)
    · exact List.mem_of_mem_drop (List.mem_of_mem_take hq)
  · exact List.mem_of_mem_eraseIdx (List.mem_of_mem_drop hq)

theorem mem_of_moveProbeBy {source destination : Datum} {ps qs : List Probe}
    (h : moveProbeBy source destination ps = .ok qs) : ∀ q ∈ qs, q ∈ ps := by
  obtain ⟨m, -, h⟩ := bind_eq_ok.1 h
  obtain ⟨n, -, h⟩ := bind_eq_ok.1 h
  split at h
  · exact mem_of_moveProbe h
  · cases h

theorem mem_of_removeProbe {id : Datum} {ps qs : List Probe} (h : removeProbe id ps = .ok qs) :
    ∀ q ∈ qs, q ∈ ps := by
  rw [removeProbe] at h
  split at h
  · obtain rfl := Except.ok.inj h
    exact fun q hq => List.mem_of_mem_eraseP hq
  · cases h

/-- Whether a property of probe operations goes over to their moves, and comes back with other
moves. -/
structure IsOfMoves (P : Probe → Prop) (Q : Step → Prop) : Prop where
  moves {p : Probe} (h : P p) (side : Side) : ∀ m ∈ side.moves p, Q m
  withMoves {p : Probe} (h : P p) (side : Side) {moves : List Step} (hmoves : ∀ m ∈ moves, Q m) :
    P (side.withMoves p moves)

/-- Whether what an edit builds has a property, of probe operations or of steps. -/
def Command.Keeps (P : Probe → Prop) (Q : Step → Prop) : Command → Prop
  | addProbe template given =>
      ∀ p, Probe.build ((usualProbe.override template).override given) = .ok p → P p
  | updateProbe _ changes => ∀ p q, P p → Probe.build (p.fields.override changes) = .ok q → P q
  | addMovement _ _ step => ∀ side : Side, Q (step.getD side.usualStep)
  | updateMovement _ _ _ kind changes => ∀ s t, Q s → changeStep kind changes s = .ok t → Q t
  | removeProbe _ | moveProbe _ _ | removeMovement _ _ _ => True

section Keeps

variable {P : Probe → Prop} {Q : Step → Prop} {ps qs : List Probe} (hps : ∀ p ∈ ps, P p)

include hps

theorem forall_addProbe {template given : ProbeFields}
    (hbuild : ∀ p, Probe.build ((usualProbe.override template).override given) = .ok p → P p)
    (h : addProbe template given ps = .ok qs) : ∀ q ∈ qs, P q := by
  obtain ⟨p, hp, h⟩ := bind_eq_ok.1 h
  obtain rfl := Except.ok.inj h
  simpa [or_imp, forall_and] using ⟨hps, hbuild p hp⟩

variable (hmovewise : IsOfMoves P Q)

include hmovewise

theorem forall_addMovement {id which : Datum} {step : Option Step}
    (hstep : ∀ side : Side, Q (step.getD side.usualStep)) (h : addMovement id which step ps = .ok qs) :
    ∀ q ∈ qs, P q := by
  obtain ⟨side, -, h⟩ := bind_eq_ok.1 h
  refine forall_of_changeFirst (fun p q hp hq => ?_) hps h
  obtain rfl := Except.ok.inj hq
  apply hmovewise.withMoves hp
  simpa [or_imp, forall_and] using ⟨hmovewise.moves hp side, hstep side⟩

theorem forall_updateMovement {id stepId which : Datum} {kind : Option Datum} {changes : StepFields}
    (hchange : ∀ s t, Q s → changeStep kind changes s = .ok t → Q t)
    (h : updateMovement id stepId which kind changes ps = .ok qs) : ∀ q ∈ qs, P q := by
  obtain ⟨side, -, h⟩ := bind_eq_ok.1 h
  refine forall_of_changeFirst (fun p q hp hq => ?_) hps h
  obtain ⟨moves, hmoves, hq⟩ := bind_eq_ok.1 hq
  obtain rfl := Except.ok.inj hq
  exact hmovewise.withMoves hp side
    (forall_of_changeFirst hchange (hmovewise.moves hp side) hmoves)

theorem forall_removeMovement {id stepId which : Datum}
    (h : removeMovement id stepId which ps = .ok qs) : ∀ q ∈ qs, P q := by
  obtain ⟨side, -, h⟩ := bind_eq_ok.1 h
  refine forall_of_changeFirst (fun p q hp hq => ?_) hps h
  split at hq
  · obtain rfl := Except.ok.inj hq
    apply hmovewise.withMoves hp
    exact fun m hm => hmovewise.moves hp side m (List.mem_of_mem_filter hm)
  · cases hq

end Keeps

/-- What an edit builds is the only thing in a sequence that need not have been there before. -/
theorem forall_apply {P : Probe → Prop} {Q : Step → Prop} (hmovewise : IsOfMoves P Q) {c : Command}
    (hc : c.Keeps P Q) {ps qs : List Probe} (hps : ∀ p ∈ ps, P p) (h : c.apply ps = .ok qs) :
    ∀ q ∈ qs, P q := by
  cases c with
  | addProbe template given => exact forall_addProbe hps hc h
  | updateProbe id changes => exact forall_of_changeFirst hc hps h
  | removeProbe id => exact fun q hq => hps q (mem_of_removeProbe h q hq)
  | moveProbe source destination => exact fun q hq => hps q (mem_of_moveProbeBy h q hq)
  | addMovement id which step => exact forall_addMovement hps hmovewise hc h
  | updateMovement id stepId which kind changes => exact forall_updateMovement hps hmovewise hc h
  | removeMovement id stepId which => exact forall_removeMovement hps hmovewise h

theorem isOfMoves_isStorable : IsOfMoves Probe.IsStorable Step.IsStorable where
  moves := isStorable_moves
  withMoves := isStorable_withMoves

theorem keeps_isStorable {c : Command} (hc : c.IsTyped) : c.Keeps Probe.IsStorable Step.IsStorable := by
  cases c with
  | addProbe template given =>
      exact fun p => isStorable_of_build ((isTyped_usualProbe.override hc.1).override hc.2)
  | updateProbe id changes =>
      exact fun p q hp => isStorable_of_build ((isTyped_probeFields hp).override hc)
  | addMovement id side step => exact fun side => getD_of_forall hc (isStorable_usualStep side)
  | updateMovement id stepId side kind changes => exact fun s t => isStorable_changeStep hc
  | removeProbe id => trivial
  | moveProbe source destination => trivial
  | removeMovement id stepId side => trivial

/-- An edit keeps it that all probe operations can be stored. -/
theorem isStorable_apply {c : Command} (hc : c.IsTyped) {ps qs : List Probe}
    (hps : ∀ p ∈ ps, p.IsStorable) (h : c.apply ps = .ok qs) : ∀ q ∈ qs, q.IsStorable :=
  forall_apply isOfMoves_isStorable (keeps_isStorable hc) hps h

/-! ### Runs -/

/-- The sequence after an edit, with names for what is new, or the sequence before an edit that
fails. -/
def Command.next (c : Command) (endings : Nat → String) (ps : List Probe) : List Probe :=
  match c.apply ps with
  | .ok qs => Naming.nameProbes endings 0 qs
  | .error _ => ps

/-- The sequence after edits, each of them with the texts in which the new names end. -/
def run (edits : List (Command × (Nat → String))) (ps : List Probe) : List Probe :=
  edits.foldl (fun ps e => e.1.next e.2 ps) ps

theorem isStorable_next {c : Command} (hc : c.IsTyped) (endings : Nat → String) {ps : List Probe}
    (hps : ∀ p ∈ ps, p.IsStorable) : ∀ q ∈ c.next endings ps, q.IsStorable := by
  rw [Command.next]
  split
  · next qs h => exact isStorable_nameProbes (isStorable_apply hc hps h) endings 0
  · exact hps

theorem isStorable_run {edits : List (Command × (Nat → String))} (hedits : ∀ e ∈ edits, e.1.IsTyped)
    {ps : List Probe} (hps : ∀ p ∈ ps, p.IsStorable) : ∀ q ∈ run edits ps, q.IsStorable := by
  induction edits generalizing ps with
  | nil => exact hps
  | cons e edits ih =>
      obtain ⟨he, hedits⟩ := List.forall_mem_cons.1 hedits
      exact ih hedits (isStorable_next he e.2 hps)

end Edit

namespace Document

/-- The sequence at the end of a run of edits has a document.  It is accepted just when the feed
rates of all its probe operations are above zero, and then the operations come back. -/
theorem reopen_of_run {edits : List (Edit.Command × (Nat → String))}
    (hedits : ∀ e ∈ edits, e.1.IsTyped) :
    ∃ d, ofSequence (Edit.run edits []) Settings.default = .ok d ∧ ∀ source,
      ((∃ s, toSequence source d = .ok s) ↔ ∀ p ∈ Edit.run edits [], zero < floatOf p.feedRate) ∧
      ∀ s, toSequence source d = .ok s → List.Forall₂ Probe.Same (Edit.run edits []) s.operations := by
  have hops : ∀ p ∈ Edit.run edits [], p.IsStorable := Edit.isStorable_run hedits (by simp)
  obtain ⟨d, hd, hback⟩ := toSequence_ofSequence hops Settings.isStorable_default
  refine ⟨d, hd, fun source => ⟨by simp [hback], fun s hs => ?_⟩⟩
  obtain ⟨-, rfl⟩ := (hback source s).1 hs
  exact forall₂_same_reopened hops Settings.default

/-- A probe is added, and a move after it that becomes a pause of half a second. -/
def pauseAfterProbe : List (Edit.Command × (Nat → String)) := [
  (.addProbe {} { axis := some (.text "Z"), feedRate := some (decimal false 1005 (-1)) }, fun _ => "a"),
  (.addMovement (.text "probe-a") (.text "post") none, fun _ => "b"),
  (.updateMovement (.text "probe-a") (.text "step-b") (.text "post") (some (.text "dwell"))
    { time := some (decimal false 5 (-1)) }, fun _ => "c")]

theorem isTyped_pauseAfterProbe : ∀ e ∈ pauseAfterProbe, e.1.IsTyped := by
  have hhalf : (decimal false 5 (-1)).IsMeasure := Datum.isMeasure_float (by decide +kernel)
  simp only [pauseAfterProbe, List.forall_mem_cons]
  refine ⟨⟨.empty, ?_⟩, of_mem_none, ?_, by simp⟩
  · exact { ProbeFields.IsTyped.empty with feedRate := of_mem_some (Datum.isExact_float _) }
  · exact { StepFields.IsTyped.empty with time := of_mem_some hhalf }

/-- What a run with a feed rate above zero leaves is opened again. -/
theorem reopen_of_run_pauseAfterProbe :
    ∃ d, ofSequence (Edit.run pauseAfterProbe []) Settings.default = .ok d ∧
      (∀ source, ∃ s, toSequence source d = .ok s) ∧
      (Edit.run pauseAfterProbe []).map (fun p => p.postMoves.map Step.kind) = [["dwell"]] := by
  obtain ⟨d, hd, hback⟩ := reopen_of_run isTyped_pauseAfterProbe
  exact ⟨d, hd, fun source => (hback source).1.2 (by decide +kernel), by decide +kernel⟩

/-- A probe operation with the feed rate zero is added and stored, but its document is refused. -/
theorem not_reopen_of_run_zeroFeed :
    ∃ edits : List (Edit.Command × (Nat → String)), (∀ e ∈ edits, e.1.IsTyped) ∧
      ∃ d, ofSequence (Edit.run edits []) Settings.default = .ok d ∧
        ∀ source, toSequence source d = .error (.invalidSequence source
          [⟨[.field "operations", .index 0, .field "feed_rate"], .notPositive⟩]) := by
  refine ⟨[(.addProbe {} { feedRate := some (.float zero) }, fun _ => "a")], ?_, _, rfl, fun source => ?_⟩
  · simp only [List.forall_mem_cons]
    refine ⟨⟨.empty, ?_⟩, by simp⟩
    exact { ProbeFields.IsTyped.empty with feedRate := of_mem_some (Datum.isExact_float zero) }
  · exact toSequence_eq_error (by decide +kernel)

end Document

end TouchProbe
