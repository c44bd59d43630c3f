import TouchProbe.Proofs.Conservation
import TouchProbe.Proofs.Reread
import TouchProbe.Sequence.Settings

/-!
What is read from a program passes the checks that guard the building of steps and of probe
operations, so nothing that a program says can make a reading fail.  A length is read either without
a sign or as a magnitude, and the float of a numeral is never below zero unless it has a sign.
-/

namespace TouchProbe

/-! ### The checks of steps and probe operations -/

/-- Whether a scalar is a number that is not below zero. -/
def Scalar.IsLength (s : Scalar) : Prop := s.isNegative = .ok false

theorem isLength_float {x : Float} (h : Number.zero ≤ x) : (Scalar.float x).IsLength := by
  simp only [Scalar.IsLength, Scalar.isNegative, Scalar.toNumber, Scalar.number?, Number.isNegative]
  exact congrArg Except.ok (decide_eq_false (Number.not_lt_zero_of_le h))

theorem lengthOf_scalar (what : String) {s : Scalar} (h : s.IsLength) :
    lengthOf what (.scalar s) = .ok s := by
  rw [Scalar.IsLength] at h
  simp [lengthOf, Datum.toScalar, h, bind, Except.bind]

/-- Whether a step passes the check of its own fields. -/
def Step.Passes : Step → Prop
  | .rapid r => Rapid.build r.fields = .ok r
  | .dwell d => Dwell.build d.fields = .ok d

def Probe.Passes (p : Probe) : Prop := Probe.build p.fields = .ok p

theorem Axis.ofDatum_name (a : Axis) : Axis.ofDatum (.text a.name) = .ok a := by
  rw [Axis.ofDatum]
  simp only [ofName?_name]

theorem RapidAxes.ofDatum_datum (vs : AxisValues) :
    RapidAxes.ofDatum (RapidAxes.values vs).datum = .ok (.values vs) := by
  have hnames : (vs.entries.map fun e => (Datum.text e.1.name, e.2)).mapM
      (fun e => Axis.ofDatum e.1) = .ok (vs.entries.map (·.1)) := by
    rw [List.mapM_map]
    exact Program.mapM_eq_ok fun e _ => Axis.ofDatum_name e.1
  have hentries : (vs.entries.map (·.1)).zip (vs.entries.map (·.2)) = vs.entries := by
    rw [List.zip_map', List.map_id']
  simp [RapidAxes.datum, RapidAxes.ofDatum, hnames, hentries, bind, Except.bind, pure,
    Except.pure, Function.comp_def]

theorem PositionMode.find?_name (mode : PositionMode) :
    all.find? (name · == mode.name) = some mode := by
  cases mode <;> decide +kernel

theorem CoordinateSystem.find?_name (system : CoordinateSystem) :
    all.find? (name · == system.name) = some system := by
  cases system <;> decide +kernel

theorem Units.find?_name (units : Units) : all.find? (name · == units.name) = some units := by
  cases units <;> decide +kernel

theorem ToolUnit.find?_name (unit : ToolUnit) : all.find? (name · == unit.name) = some unit := by
  cases unit <;> decide +kernel

theorem chooseNamed_name {α : Type} {all : List α} {name : α → String} {fault : String → Fault} {a : α}
    (h : all.find? (name · == name a) = some a) :
    chooseNamed all name fault (.text (name a)) = .ok a := by
  rw [chooseNamed]
  simp only [h]

theorem PositionMode.ofDatum_name (mode : PositionMode) :
    PositionMode.ofDatum (.text mode.name) = .ok mode := chooseNamed_name mode.find?_name

theorem CoordinateSystem.ofDatum_name (system : CoordinateSystem) :
    CoordinateSystem.ofDatum (.text system.name) = .ok system := chooseNamed_name system.find?_name

theorem Units.ofDatum_name (units : Units) : Units.ofDatum (.text units.name) = .ok units :=
  chooseNamed_name units.find?_name

theorem ToolUnit.ofDatum_name (unit : ToolUnit) : ToolUnit.ofDatum (.text unit.name) = .ok unit :=
  chooseNamed_name unit.find?_name

theorem Rapid.passes {r : Rapid} {vs : AxisValues} (h : r.axes = .values vs) :
    (Step.rapid r).Passes := by
  obtain ⟨axes, mode, system, description, id⟩ := r
  obtain rfl := h
  simp [Step.Passes, Rapid.build, Rapid.fields, RapidAxes.ofDatum_datum, PositionMode.ofDatum_name,
    CoordinateSystem.ofDatum_name, bind, Except.bind]

theorem Dwell.passes {d : Dwell} (h : d.time.IsLength) : (Step.dwell d).Passes := by
  have htime := lengthOf_scalar "dwell_time" h
  simp [Step.Passes, Dwell.build, Dwell.fields, required, htime, bind, Except.bind]

theorem Probe.passes {p : Probe} (direction : p.direction.isUnit = true)
    (distance : p.distance.IsLength) (backoff : p.backoff.IsLength) : p.Passes := by
  have hdistance := lengthOf_scalar "distance" distance
  have hbackoff := lengthOf_scalar "backoff_distance" backoff
  simp [Probe.Passes, Probe.build, Probe.fields, required, hdistance, hbackoff, directionOf, direction,
    Axis.ofDatum_name, bind, Except.bind]

namespace Program

open Text Number State

/-! ### What is read -/

theorem negative_unsigned? {s r : List Char} {n : Numeral} (h : unsigned? s = some (n, r)) :
    n.negative = false := by
  rw [unsigned?] at h
  split at h
  · split at h <;> cases h
    rfl
  · cases h
  · cases h
    rfl
  · cases h
    rfl

/-- A number without a sign that is found anywhere is not below zero. -/
theorem zero_le_letterValue? {letter : Char} {s : List Char} {x : Float}
    (h : firstAnywhere (letterValue? letter) s = some x) : zero ≤ x := by
  obtain ⟨t, ht⟩ := exists_of_firstAnywhere h
  cases t with
  | nil => cases ht
  | cons c t =>
      simp only [letterValue?] at ht
      split at ht
      · obtain ⟨⟨n, r⟩, hn, rfl⟩ := Option.map_eq_some_iff.1 ht
        simp only [Numeral.toFloat, negative_unsigned? hn]
        exact zero_le_nearestDecimal _ _
      · cases ht

/-- The feed rate that a probe line is read with is above zero. -/
theorem feedRate_of_code (code : List Char) : zero < (probeFeed? code).getD assumedFeedRate := by
  cases h : probeFeed? code with
  | none =>
      change zero < assumedFeedRate
      decide +kernel
  | some x =>
      obtain ⟨hfeed, hzero⟩ := Option.filter_eq_some_iff.1 h
      exact zero_lt_of_le (zero_le_letterValue? hfeed) (by simpa using hzero)

theorem isNaN_of_axisWord? {s : List Char} {e : Axis × Float} (h : axisWord? s = some e) :
    e.2.isNaN = false := by
  cases s with
  | nil => cases h
  | cons c s =>
      obtain ⟨a, -, h⟩ := Option.bind_eq_some_iff.1 h
      obtain ⟨n, -, h⟩ := Option.bind_eq_some_iff.1 h
      rw [← Option.some.inj h]
      exact isNaN_nearestDecimal _ _ _

/-- The values by axis of a command are numbers. -/
theorem isNaN_of_mem_axes {code : List Char} {e : Axis × Float} (h : e ∈ (axes code).entries) :
    e.2.isNaN = false := by
  obtain ⟨t, ht⟩ := exists_of_mem_allAlong (ByAxis.mem_of_mem_ofList h)
  exact isNaN_of_axisWord? ht

theorem isNaN_of_lookup_axes {code : List Char} {a : Axis} {x : Float}
    (h : (axes code).entries.lookup a = some x) : x.isNaN = false := by
  obtain ⟨before, after, hentries, -⟩ := List.lookup_eq_some_iff.1 h
  have hmem : (a, x) ∈ (axes code).entries := by simp [hentries]
  exact isNaN_of_mem_axes (e := (a, x)) hmem

/-- The steps that are read pass the checks of their fields. -/
theorem passes_of_mem_moveLines {lines : List (List Char)} {m : Move} (h : m ∈ moveLines lines) :
    m.2.Passes := by
  obtain ⟨index, step⟩ := m
  obtain ⟨line, -, -, hline⟩ := moveLine_of_mem h
  simp only at hline ⊢
  cases hline with
  | rapid isRapid hasAxes => exact Rapid.passes rfl
  | dwell isDwell isFree hasTime =>
      exact Dwell.passes (isLength_float (zero_le_letterValue? hasTime))

/-- Whether an open probe is one that lines can open: its lengths are numbers that are not below
zero, its feed rate is above zero, and it goes back only over a length. -/
structure OpenProbe.IsSound (p : OpenProbe) : Prop where
  forward : isZero p.distance = true → p.forward = true
  distance : zero ≤ p.distance
  feedRate : zero < p.feedRate
  backoff : ∀ x ∈ p.backoff, zero ≤ x
  offset : ∀ x ∈ p.offset, zero ≤ x

/-- A retreat that is never named is one unit long. -/
theorem OpenProbe.IsSound.zero_le_backoff {p : OpenProbe} (h : p.IsSound) :
    zero ≤ p.backoff.getD assumedBackoff := by
  cases hbackoff : p.backoff with
  | none => exact zero_le_nearestDecimal 1 0
  | some x => exact h.backoff x hbackoff

theorem OpenProbe.IsSound.zero_le_offset {p : OpenProbe} (h : p.IsSound) :
    zero ≤ p.offset.getD zero := by
  cases hoffset : p.offset with
  | none => decide +kernel
  | some x => exact h.offset x hoffset

/-- Whether the closed probes were open ones that lines can open, as the open one is. -/
structure State.IsSound (st : State) : Prop where
  probes : ∀ p ∈ st.probes, ∃ q : OpenProbe, q.IsSound ∧ ∃ moves, p = q.close moves
  current : ∀ p ∈ st.current, p.IsSound

theorem OpenProbe.IsSound.passes {p : OpenProbe} (h : p.IsSound) (moves : List Step) :
    (p.close moves).Passes := by
  apply Probe.passes
  · cases hforward : p.forward <;> simp [OpenProbe.close, hforward] <;> decide
  · exact isLength_float h.distance
  · exact isLength_float h.zero_le_backoff

namespace State.IsSound

theorem start : ({} : State).IsSound := ⟨by simp, by simp⟩

variable {st st' : State} (h : st.IsSound)

include h

theorem of_eq (probes : st'.probes = st.probes) (current : st'.current = st.current) :
    st'.IsSound := ⟨probes ▸ h.probes, current ▸ h.current⟩

theorem closeProbe : st.closeProbe.IsSound := by
  constructor
  · intro p hp
    rw [probes_closeProbe, List.mem_append] at hp
    rcases hp with hp | hp
    · exact h.probes p hp
    · obtain ⟨q, hq, rfl⟩ := List.mem_map.1 hp
      exact ⟨q, h.current q (Option.mem_toList.1 hq), _, rfl⟩
  · simp [current_closeProbe]

theorem readComment (text : List Char) : (st.readComment text).IsSound := by
  rw [State.readComment]
  split
  · exact h
  · split
    · exact h.closeProbe
    · split
      · exact h.of_eq rfl rfl
      · exact h

theorem enterRun (length : Nat) : (st.enterRun length).IsSound := by
  rw [State.enterRun]
  split
  · exact h.closeProbe
  · exact h.of_eq rfl rfl

theorem readSpindle (line : Nat) (text code : List Char) :
    (st.readSpindle line text code).IsSound := by
  rw [State.readSpindle]
  split
  · split <;> exact h.of_eq rfl rfl
  · exact h

theorem readProbe (line : Nat) (text code : List Char) : (st.readProbe line text code).IsSound := by
  rw [State.readProbe]
  split
  · next axis value hentries =>
    have hclosed (assumptions : List Assumption) :
        ({ st with pending := [], assumptions } : State).closeProbe.IsSound := by
      have hnoted : ({ st with pending := [], assumptions } : State).IsSound := h.of_eq rfl rfl
      exact hnoted.closeProbe
    refine ⟨(hclosed _).probes, fun p hp => ?_⟩
    obtain rfl := Option.some.inj hp
    have hvalue : value.isNaN = false :=
      isNaN_of_mem_axes (e := (axis, value)) (hentries ▸ List.mem_cons_self)
    refine ⟨fun hzero => ?_, zero_le_abs hvalue, feedRate_of_code code, by simp, by simp⟩
    simpa using not_lt_zero_of_isZero (isZero_of_abs hzero)
  · exact h.of_eq rfl rfl

theorem readOrigin (code : List Char) : (st.readOrigin code).IsSound := by
  rw [State.readOrigin]
  split
  · exact h
  · next p hcurrent =>
    split
    · exact h
    · next value hvalue =>
      refine ⟨h.probes, fun q hq => ?_⟩
      obtain rfl := Option.some.inj hq
      refine { h.current p hcurrent with offset := ?_ }
      intro x hx
      obtain rfl := Option.some.inj hx
      exact zero_le_abs (isNaN_of_lookup_axes hvalue)

theorem readRapid (text code : List Char) : (st.readRapid text code).IsSound := by
  rw [State.readRapid]
  split
  · exact h
  · split
    · exact h.of_eq rfl rfl
    · split
      · next p length hbackoff =>
        obtain ⟨hcurrent, value, hentries, rfl⟩ := backoff?_eq_some hbackoff
        refine ⟨h.probes, fun q hq => ?_⟩
        obtain rfl := Option.some.inj hq
        refine { h.current p hcurrent with backoff := ?_ }
        intro x hx
        obtain rfl := Option.some.inj hx
        exact zero_le_abs (isNaN_of_mem_axes (e := (p.axis, value)) (hentries ▸ List.mem_cons_self))
      · exact h.of_eq rfl rfl

theorem readDwell (text code : List Char) : (st.readDwell text code).IsSound := by
  rw [State.readDwell]
  split
  · exact h
  · exact h.of_eq rfl rfl

theorem readCommand (line : Nat) (text code : List Char) :
    (st.readCommand line text code).IsSound := by
  have hset {next : State} (hnext : next.IsSound) :
      ({ next with isSetUp := next.isSetUp || isSetup code } : State).IsSound :=
    hnext.of_eq rfl rfl
  rw [State.readCommand]
  apply hset
  cases classify code with
  | units => exact h.of_eq rfl rfl
  | spindle => exact h.readSpindle line text code
  | probe => exact h.readProbe line text code
  | origin => exact h.readOrigin code
  | rapid => exact h.readRapid text code
  | dwell => exact h.readDwell text code
  | goHome | other => exact h

theorem readLine (index : Nat) (role : Role) (line : List Char) :
    (st.readLine index role line).IsSound := by
  simp only [State.readLine]
  split
  · exact h
  · split
    · exact h.readComment _
    · split
      · exact h.enterRun _
      · exact h
      · split
        · exact h
        · exact h.readCommand _ _ _

end State.IsSound

theorem isSound_stateAt (lines : List (List Char)) (k : Nat) : (stateAt lines k).IsSound := by
  induction k with
  | zero => exact .start
  | succ k ih =>
      rw [stateAt]
      split
      · exact ih.readLine _ _ _
      · exact ih

/-- The probe operations that are read are probes that lines open. -/
theorem exists_isSound_of_mem_probes {text : String} {p : Probe} (h : p ∈ (read text).probes) :
    ∃ q : OpenProbe, q.IsSound ∧ ∃ moves, p = q.close moves := by
  rw [read, readLines_eq_stateAt] at h
  exact (isSound_stateAt _ _).closeProbe.probes p h

/-- The probe operations that are read pass the check of their fields. -/
theorem passes_of_mem_probes {text : String} {p : Probe} (h : p ∈ (read text).probes) : p.Passes := by
  obtain ⟨q, hq, moves, rfl⟩ := exists_isSound_of_mem_probes h
  exact hq.passes moves

end Program

end TouchProbe
