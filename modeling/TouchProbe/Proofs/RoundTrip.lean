import TouchProbe.Proofs.Programs

/-!
Writing a program and reading it back loses nothing: operations and settings that are shown in full
come back with the same numbers, steps and descriptions.
-/

namespace TouchProbe.Program

open Text Number

/-! ### What it is to come back -/

/-- Whether a value comes back as another: the two are equal as floats, and equal in value if the
first is equal in value to its float. -/
structure Agrees (d e : Datum) : Prop where
  float : (floatOf d == floatOf e) = true
  value : d.same (.float (floatOf d)) = true → d.same e = true

/-- Whether axes come back: the same axes in the same order, each with its value. -/
def AxesAgree : RapidAxes → RapidAxes → Prop
  | .values vs, .values ws =>
    List.Forall₂ (fun e f => e.1 = f.1 ∧ Agrees e.2 f.2) vs.entries ws.entries
  | _, _ => False

/-- Whether a step comes back, whatever its id. -/
def StepAgrees : Step → Step → Prop
  | .rapid r, .rapid s =>
    AxesAgree r.axes s.axes ∧ r.mode = s.mode ∧ r.system = s.system ∧ r.description = s.description
  | .dwell d, .dwell e => Agrees (.scalar d.time) (.scalar e.time) ∧ d.description = e.description
  | _, _ => False

structure ProbeAgrees (p q : Probe) : Prop where
  axis : p.axis = q.axis
  direction : p.direction.same q.direction = true
  distance : Agrees (.scalar p.distance) (.scalar q.distance)
  feedRate : Agrees p.feedRate q.feedRate
  backoff : Agrees (.scalar p.backoff) (.scalar q.backoff)
  offset : Agrees p.offset q.offset
  preMoves : List.Forall₂ StepAgrees p.preMoves q.preMoves
  postMoves : List.Forall₂ StepAgrees p.postMoves q.postMoves

/-- Whether a reading is that of operations and settings, with nothing wrong and nothing
assumed.  The number of pauses shows only in programs that probe. -/
structure ReadsAs (ops : List Probe) (settings : Settings) (r : Reading) : Prop where
  problems : r.problems = []
  assumptions : r.assumptions = []
  probes : List.Forall₂ ProbeAgrees ops r.probes
  start : ∃ q, r.start = some q ∧ ∀ a, Agrees (settings.start.get a) (q.get a)
  spindle : ∃ k, r.spindle = some k ∧ Agrees settings.spindle (.int k)
  units : r.units = some settings.units
  dwells : ops ≠ [] → ∃ k, r.dwells = some k ∧ settings.dwells = .int k

/-! ### Numbers -/

theorem isWhole_of_isZero {x : Float} (h : isZero x = true) : isWhole x = true := by
  obtain ⟨negative, hparts⟩ := isZero_iff.1 h
  rw [isWhole_iff hparts, ratio, Nat.zero_mul, Nat.zero_mod]

theorem truncate?_of_isZero {x : Float} (h : isZero x = true) : truncate? x = some 0 := by
  obtain ⟨negative, hparts⟩ := isZero_iff.1 h
  rw [truncate?, hparts]
  cases negative <;> simp [ratio, signed]

/-- Losing the sign of a zero changes neither whether a float is whole nor what it is cut to. -/
theorem whole_settled {x : Float} :
    (isWhole x = true → isWhole (settled x) = true) ∧ truncate? (settled x) = truncate? x := by
  cases hz : isZero x with
  | true =>
      rw [settled, hz, if_pos rfl, truncate?_of_isZero hz]
      exact ⟨fun _ => isWhole_of_isZero isZero_zero, truncate?_of_isZero isZero_zero⟩
  | false =>
      rw [settled, hz, if_neg Bool.false_ne_true]
      exact ⟨id, rfl⟩

/-- A whole float is the float of the whole number that it is cut to. -/
theorem ofInt?_truncate? {x : Float} (h : isWhole x = true) :
    ∃ k, truncate? x = some k ∧ ofInt? k = some (settled x) := by
  cases hparts : parts x with
  | nan => simp [isWhole, hparts] at h
  | infinite negative => simp [isWhole, hparts] at h
  | finite negative m e =>
      rw [isWhole_iff hparts] at h
      have hc := canonical_parts hparts
      refine ⟨_, by rw [truncate?, hparts], ?_⟩
      rw [settled_eq hparts]
      rcases Nat.eq_zero_or_pos m with rfl | hm
      · obtain rfl : e = leastExponent := hc.normal.resolve_right (by decide)
        simp only [ratio, Nat.zero_mul, Nat.zero_div]
        cases negative <;> rfl
      · generalize hq : (ratio m e).1 / (ratio m e).2 = q
        have hpos : (0 : ℚ) < (ratio m e).2 := by exact_mod_cast ratio_pos m e
        have hvalue : (q : ℚ) = m * 2 ^ e := by
          rw [← hq, ← ratio_div, Nat.cast_div (Nat.dvd_of_mod_eq_zero h) hpos.ne']
        have hm0 : (0 : ℚ) < m := by exact_mod_cast hm
        have hq0 : 0 < q := by
          have : (0 : ℚ) < q := by rw [hvalue]; positivity
          exact_mod_cast this
        have hcode : nearestCode q 1 = codeOf m e := by
          apply nearestCode_of_contains Nat.one_pos hc hm
          rw [Nat.cast_one, div_one, hvalue]
          exact contains_self hm e
        have habs : (signed negative q).natAbs = q := by cases negative <;> simp [signed]
        have hsign : decide (signed negative q < 0) = negative := by
          cases negative
          · simp [signed]
          · simpa [signed] using hq0
        have hm1 : (m != 0) = true := by simpa using hm.ne'
        rw [ofInt?, habs, hcode, if_neg (codeOf_lt hc).ne, hsign, hm1, Bool.and_true]

/-! ### Values -/

theorem same_of_number {a b : Scalar} {m n : Number} (ha : a.number? = some m)
    (hb : b.number? = some n) : a.same b = m.same n := by
  cases a <;> cases b <;> simp_all [Scalar.same, Scalar.number?]

/-- A whole number equals a float without the sign of its zero if it equals the float. -/
theorem same_settled {k : Int} {x : Float} (h : (Number.whole k).same (.real x) = true) :
    (Number.whole k).same (.real (settled x)) = true := by
  simp only [Number.same, Bool.and_eq_true, beq_iff_eq] at h ⊢
  exact ⟨whole_settled.1 h.1, whole_settled.2.trans h.2⟩

theorem same_rereadNumber {s : Scalar} {k : Int} (hs : s.number? = some (.whole k))
    (h : Datum.same (.scalar s) (.float (floatOf (.scalar s))) = true) :
    Datum.same (.scalar s) (rereadNumber (.scalar s)) = true := by
  rw [Datum.same, same_of_number hs rfl] at h
  rw [rereadNumber, Datum.same, same_of_number hs rfl]
  exact same_settled h

theorem agrees_rereadNumber {d : Datum} (h : IsPlainNumber d) : Agrees d (rereadNumber d) := by
  have hfloat := beq_settled h.plain
  have hnumber := h.number
  refine ⟨hfloat, fun hsame => ?_⟩
  cases d with
  | scalar s =>
      cases s with
      | null => cases hnumber
      | text t => cases hnumber
      | bool b => exact same_rereadNumber (s := .bool b) rfl hsame
      | int k => exact same_rereadNumber (s := .int k) rfl hsame
      | float x =>
          rw [rereadNumber, Datum.same]
          exact hfloat
  | _ => cases hnumber

theorem agrees_of_eq {d e : Datum} (h : IsPlainNumber d) (he : e = rereadNumber d) : Agrees d e :=
  he ▸ agrees_rereadNumber h

/-- The whole number that is read for a whole value has the float of the value. -/
theorem toFloat_truncate? {d : Datum} (h : isWhole (floatOf d) = true) :
    ∃ k, truncate? (settled (floatOf d)) = some k ∧
      Datum.toFloat (.int k) = .ok (settled (floatOf d)) := by
  obtain ⟨k, hk, hof⟩ := ofInt?_truncate? h
  refine ⟨k, whole_settled.2.trans hk, ?_⟩
  simp [Datum.toFloat, Scalar.toFloat, Scalar.toNumber, Scalar.number?, Number.toFloat, hof, bind,
    Except.bind]

/-- A spindle speed comes back as the whole number that it is. -/
theorem agrees_truncate {d : Datum} (h : IsPlainNumber d) (hwhole : isWhole (floatOf d) = true) :
    ∃ k, truncate? (settled (floatOf d)) = some k ∧ Agrees d (.int k) := by
  obtain ⟨k, hpaused, hfloat⟩ := toFloat_truncate? hwhole
  have hk : truncate? (floatOf d) = some k := whole_settled.2.symm.trans hpaused
  refine ⟨k, hpaused, ?_, fun hsame => ?_⟩
  · rw [floatOf, floatOf, hfloat]
    exact beq_settled h.plain
  have hnumber := h.number
  cases d with
  | scalar s =>
      have hs : ∃ n, s.number? = some n := by
        cases s <;> first | exact ⟨_, rfl⟩ | cases hnumber
      obtain ⟨n, hn⟩ := hs
      rw [Datum.same, same_of_number hn rfl] at hsame ⊢
      cases n with
      | whole j =>
          simp only [Number.same, Bool.and_eq_true, beq_iff_eq] at hsame ⊢
          exact Option.some.inj (hsame.2.symm.trans hk)
      | real y =>
          have hy : floatOf (.scalar s) = y := by
            cases s <;> simp [Scalar.number?] at hn
            exact hn
          rw [hy] at hwhole hk
          simp [Number.same, hwhole, hk]
  | _ => cases hnumber

/-! ### Steps and probes -/

theorem stepAgrees_rereadStep {s : Step} (h : IsPlainStep s) : StepAgrees s (rereadStep s) := by
  cases s with
  | rapid r =>
      obtain ⟨-, vs, hvs, -, hvals⟩ := h
      refine ⟨?_, rfl, rfl, rfl⟩
      change AxesAgree r.axes (rereadAxes r.axes)
      rw [hvs]
      change List.Forall₂ _ vs.entries (vs.entries.map fun e => (e.1, rereadNumber e.2))
      rw [List.forall₂_map_right_iff, List.forall₂_same]
      exact fun e he => ⟨rfl, agrees_rereadNumber (hvals e he)⟩
  | dwell d => exact ⟨agrees_rereadNumber h.2.1, rfl⟩

theorem stepsAgree_reread {steps : List Step} (h : ∀ s ∈ steps, IsPlainStep s) :
    List.Forall₂ StepAgrees steps (steps.map rereadStep) := by
  rw [List.forall₂_map_right_iff, List.forall₂_same]
  exact fun s hs => stepAgrees_rereadStep (h s hs)

/-- Whether a probe operation comes back in full: it is shown in full, its direction is one or
minus one, and what only lengths come back of is not below zero. -/
structure IsShownProbe (p : Probe) : Prop extends IsPlainProbe p where
  direction : p.direction.isUnit = true
  forward : isZero (floatOf (.scalar p.distance)) = true → p.direction.same (.int 1) = true
  offset_nonneg : zero ≤ floatOf p.offset

theorem zero_lt_of_truncate? {x : Float} {k : Int} (h : truncate? x = some k) (hk : k ≠ 0) :
    zero < x ↔ 0 < k := by
  cases hparts : parts x with
  | nan => simp [truncate?, hparts] at h
  | infinite negative => simp [truncate?, hparts] at h
  | finite negative m e =>
      simp only [truncate?, hparts, Option.some.injEq] at h
      have hm : m ≠ 0 := by
        rintro rfl
        apply hk
        rw [← h]
        cases negative <;> simp [ratio, signed]
      rw [zero_lt_iff hparts]
      generalize (ratio m e).1 / (ratio m e).2 = q at h
      cases negative
      · have h' : (q : Int) = k := by simpa [signed] using h
        simp only [hm, ne_eq, not_false_eq_true, and_self, true_iff]
        omega
      · have h' : -(q : Int) = k := by simpa [signed] using h
        simp only [Bool.true_eq_false, false_and, false_iff]
        omega

theorem isPositive_of_same {n : Number} {k : Int} (h : n.same (.whole k) = true) (hk : k ≠ 0) :
    n.isPositive = decide (0 < k) := by
  cases n with
  | whole j =>
      obtain rfl : j = k := by simpa [Number.same] using h
      rfl
  | real x =>
      simp only [Number.same, Bool.and_eq_true, beq_iff_eq] at h
      rw [Number.isPositive, Bool.eq_iff_iff, decide_eq_true_eq, decide_eq_true_eq]
      exact zero_lt_of_truncate? h.2 hk

/-- A direction is the unit of its sign. -/
theorem direction_of_isUnit {p : Probe} (h : p.direction.isUnit = true) :
    p.direction.same (.int (if p.isForward then 1 else -1)) = true := by
  rw [Scalar.isUnit, Bool.or_eq_true] at h
  cases hn : p.direction.number? with
  | none =>
      have hnone (k : Int) : p.direction.same (.int k) = false := by
        cases hd : p.direction <;> simp_all [Scalar.same, Scalar.number?]
      simp [hnone] at h
  | some n =>
      have hone (k : Int) : p.direction.same (.int k) = n.same (.whole k) := same_of_number hn rfl
      have hforward : p.isForward = n.isPositive := by rw [Probe.isForward, hn]
      rw [hone, hone] at h
      rw [hone, hforward]
      rcases h with h | h
      · simpa [isPositive_of_same h] using h
      · simpa [isPositive_of_same h] using h

theorem probeAgrees_rereadProbe {p : Probe} (h : IsShownProbe p) :
    ProbeAgrees p (rereadProbe p) where
  axis := rfl
  direction := by
    rw [rereadProbe, readsForward]
    cases hz : isZero (floatOf (.scalar p.distance)) with
    | true => simpa using h.forward hz
    | false => simpa using direction_of_isUnit h.direction
  distance := agrees_rereadNumber h.distance
  feedRate := agrees_rereadNumber h.feedRate
  backoff := agrees_rereadNumber h.backoff
  offset := agrees_of_eq h.offset
    (congrArg Datum.float (abs_settled h.offset.plain h.offset_nonneg))
  preMoves := stepsAgree_reread h.preMoves
  postMoves := stepsAgree_reread h.postMoves

/-! ### The head -/

theorem get?_startRead {settings : Settings} (h : IsPlainHead settings) (a : Axis) :
    (startRead settings).get? a = some (settled (floatOf (settings.start.get a))) := by
  have hentries (b : Axis) : (axes (startCode b (floatOf (settings.start.get b)))).entries =
      [(b, settled (floatOf (settings.start.get b)))] := axes_startCode b (h.start b).plain
  simp only [startRead, startOrder, List.foldl_cons, List.foldl_nil, hentries]
  cases a <;> rfl

theorem startPosition_startRead {settings : Settings} (h : IsPlainHead settings) :
    ∃ q, State.startPosition (startRead settings) = some q ∧
      ∀ a, q.get a = rereadNumber (settings.start.get a) := by
  have hget := get?_startRead h
  have hne : (startRead settings).isEmpty = false := by
    rw [← Bool.not_eq_true]
    intro hempty
    have hx := hget .x
    rw [ByAxis.isEmpty, List.isEmpty_iff] at hempty
    rw [ByAxis.get?, hempty] at hx
    cases hx
  refine ⟨_, by rw [State.startPosition, hne, if_neg Bool.false_ne_true], fun a => ?_⟩
  cases a <;> simp only [Position.get, hget, Option.getD_some, rereadNumber]

theorem start_reread {settings : Settings} (h : IsPlainHead settings) :
    ∃ q, State.startPosition (startRead settings) = some q ∧
      ∀ a, Agrees (settings.start.get a) (q.get a) := by
  obtain ⟨q, hq, hget⟩ := startPosition_startRead h
  exact ⟨q, hq, fun a => agrees_of_eq (h.start a) (hget a)⟩

/-- The number of pauses that a whole number asks for. -/
theorem pauseCount_int (n : Nat) : pauseCount (.int n) = .ok n := rfl

theorem reading_of_became {settings : Settings} {start : ByAxis Float} {speed : Option Int}
    {pending : List Step} {count : Nat} {ops : List Probe} {st : State}
    (h : (State.headed settings.units start speed [] pending).Became count ops st) :
    st.closeProbe.reading.start = State.startPosition start ∧
      st.closeProbe.reading.spindle = speed ∧ st.closeProbe.reading.units = some settings.units ∧
      st.closeProbe.reading.problems = [] ∧ st.closeProbe.reading.assumptions = [] ∧
      (ops ≠ [] → st.closeProbe.reading.dwells = some count) := by
  rcases h with ⟨rfl, rfl⟩ | ⟨setupEnd, before, last, line, rfl, rfl⟩
  · exact ⟨rfl, rfl, rfl, rfl, rfl, fun hne => absurd rfl hne⟩
  · exact ⟨rfl, rfl, rfl, rfl, rfl, fun _ => rfl⟩

/-! ### The round trip -/

/-- Writing and reading loses nothing of operations and settings that are shown in full. -/
theorem read_write {ops : List Probe} {settings : Settings} {count : Nat}
    (hops : ∀ p ∈ ops, IsShownProbe p) (hhead : IsPlainHead settings)
    (hdwells : settings.dwells = .int count) (hcount : 2 ≤ count) :
    ∃ text, write ops settings = .ok text ∧ ReadsAs ops settings (read text) := by
  have hplain : ∀ p ∈ ops, IsPlainProbe p := fun p hp => (hops p hp).toIsPlainProbe
  obtain ⟨text, hwrite, hread⟩ := exists_write hplain hhead.hasFloats
    (by rw [hdwells, pauseCount_int]) hcount
  obtain ⟨pending, hlead⟩ := leads_plainHead hhead
  have hfresh := isFresh_headed settings.units (startRead settings)
    (truncate? (settled (floatOf settings.spindle))) [] pending
  obtain ⟨st, hbecame, hst⟩ := hread _ hfresh hlead
  obtain ⟨hstart, hspindle, hunits, hproblems, hassumptions, hpauses⟩ := reading_of_became hbecame
  refine ⟨text, hwrite, ?_⟩
  rw [hst]
  refine ⟨hproblems, hassumptions, ?_, ?_, ?_, hunits, fun hne => ⟨count, hpauses hne, hdwells⟩⟩
  · have hprobes := closeProbe_of_became hfresh hbecame
    rw [State.reading, hprobes, List.forall₂_map_right_iff, List.forall₂_same]
    exact fun p hp => probeAgrees_rereadProbe (hops p hp)
  · rw [hstart]
    exact start_reread hhead
  · rw [hspindle]
    exact agrees_truncate hhead.spindle hhead.spindle_whole

def halfSecond : Step :=
  .dwell {
    time := .float (nearestDecimal false 5 (-1))
    description := .text "Wait"
    id := .made }

theorem isPlainStep_halfSecond : IsPlainStep halfSecond := by
  refine ⟨⟨_, rfl, by decide, by decide +kernel, by decide⟩, ?_, ?_, ?_⟩ <;> decide +kernel

/-- A probe down and one to larger coordinates along X, both between moves: the moves after the first
one stand right before those of the second. -/
def descentAndPush : List Probe := [
  downward [moveX .relative .none] [moveX .absolute .wcs, halfSecond],
  { downward [halfSecond, moveX .none .machine] [moveX .relative .none] with
    axis := .x
    direction := .int 1
    offset := .int 3 }]

/-- The moves between two probes come back on the sides that they were on. -/
theorem read_write_descentAndPush :
    ∃ text, write descentAndPush Settings.default = .ok text ∧
      ReadsAs descentAndPush Settings.default (read text) := by
  have hdwells : Settings.default.dwells = .int (15 : Nat) := rfl
  have hmoves : ∀ s ∈ [moveX .relative .none], IsPlainStep s := by simp [isPlainStep_moveX]
  have hafter : ∀ s ∈ [moveX .absolute .wcs, halfSecond], IsPlainStep s := by
    simp [isPlainStep_moveX, isPlainStep_halfSecond]
  have hahead : ∀ s ∈ [halfSecond, moveX .none .machine], IsPlainStep s := by
    simp [isPlainStep_moveX, isPlainStep_halfSecond]
  refine read_write ?_ ⟨fun a => ?_, ?_, ?_, ?_⟩ hdwells (by decide)
  · rw [descentAndPush, List.forall_mem_cons, List.forall_mem_singleton]
    constructor
    · exact {
        isPlainProbe_downward hmoves hafter with
        direction := by decide +kernel
        forward := by decide +kernel
        offset_nonneg := by decide +kernel }
    · exact {
        isPlainProbe_downward hahead hmoves with
        offset := by decide +kernel
        direction := by decide +kernel
        forward := by decide +kernel
        offset_nonneg := by decide +kernel }
  · cases a <;> decide +kernel
  · decide +kernel
  · decide +kernel
  · decide +kernel

end TouchProbe.Program
