import TouchProbe.Proofs.AcceptedDocuments
import TouchProbe.Proofs.Reexport
import TouchProbe.Proofs.WriteOnce

/-!
Every import can be saved and opened again.  No number that is read from a program is out of the
bounds of documents, whatever the program says: what is read without a sign or as a magnitude is not
below zero, a numeral of many digits is infinite at most, a feed rate of zero is none, and a run of
clearing pauses is never shorter than two.  So the operations that are read and the settings that
take over what was read have a document, and it is accepted.
-/

namespace TouchProbe

/-! ### Floats of whole numbers -/

namespace Number

/-- A whole number of up to 53 bits is a significand of full length with some power of two. -/
theorem canonical_scaled {n : Nat} (hn : 0 < n) (hsmall : n < 2 ^ 53) :
    Canonical (n * 2 ^ (52 - n.log2)) (n.log2 - 52) := by
  have hlow : 2 ^ n.log2 ≤ n := Nat.log2_self_le hn.ne'
  have hhigh : n < 2 ^ (n.log2 + 1) := Nat.lt_log2_self
  have hlog : n.log2 < 53 := (Nat.log2_lt hn.ne').2 hsmall
  have hpow : 2 ^ n.log2 * 2 ^ (52 - n.log2) = 2 ^ 52 := by
    rw [← pow_add, Nat.add_sub_cancel' (by omega)]
  have hpos : 0 < 2 ^ (52 - n.log2) := Nat.two_pow_pos _
  constructor
  · calc n * 2 ^ (52 - n.log2) < 2 ^ (n.log2 + 1) * 2 ^ (52 - n.log2) :=
          Nat.mul_lt_mul_of_pos_right hhigh hpos
      _ = 2 ^ 53 := by rw [pow_succ, mul_right_comm, hpow, ← pow_succ]
  · rw [leastExponent]
    omega
  · omega
  · refine .inr ?_
    rw [← hpow]
    exact Nat.mul_le_mul_right _ hlow

/-- A whole number of up to 53 bits is the value of its float. -/
theorem ofInt?_small {n : Nat} (hn : 0 < n) (hsmall : n < 2 ^ 53) :
    ofInt? n = some (ofSignCode false (codeOf (n * 2 ^ (52 - n.log2)) (n.log2 - 52))) := by
  have hc := canonical_scaled hn hsmall
  have hlog : n.log2 < 53 := (Nat.log2_lt hn.ne').2 hsmall
  have hvalue : (n : ℚ) / (1 : ℕ) = (n * 2 ^ (52 - n.log2) : ℕ) * 2 ^ ((n.log2 : ℤ) - 52) := by
    have hpower : (n.log2 : ℤ) - 52 = -((52 - n.log2 : ℕ) : ℤ) := by omega
    rw [hpower, zpow_neg, zpow_natCast]
    push_cast
    field_simp
  have hcode : nearestCode n 1 = codeOf (n * 2 ^ (52 - n.log2)) (n.log2 - 52) := by
    have hpos : 0 < n * 2 ^ (52 - n.log2) := Nat.mul_pos hn (Nat.two_pow_pos _)
    apply nearestCode_of_contains Nat.one_pos hc hpos
    rw [hvalue]
    exact contains_self hpos _
  rw [ofInt?, Int.natAbs_natCast, hcode, if_neg (codeOf_lt hc).ne]
  rfl

theorem zero_le_ofInt? {n : Int} {x : Float} (hn : 0 ≤ n) (h : ofInt? n = some x) : zero ≤ x := by
  rw [ofInt?, decide_eq_false (not_lt.2 hn)] at h
  simp only [Option.ite_none_left_eq_some, Option.some.injEq] at h
  rw [← h.2]
  rcases parts_of_code_le false (nearestCode_le n.natAbs 1) with hparts | ⟨m, e, hparts⟩
  · exact zero_le_infinite hparts
  · exact (zero_le_iff hparts).2 (.inl rfl)

end Number

open Number
open Program (floatOf)

/-! ### What the numbers of a program are -/

/-- Whether a step is a rapid move along some axes to numbers, or a pause of some length.  A float
that is no number is not above zero, nor is it zero. -/
def Step.IsMeasured : Step → Prop
  | .rapid r => ∃ vs : ByAxis Float, r.axes = .values (vs.map .float) ∧ vs.isEmpty = false ∧
      ∀ e ∈ vs.entries, e.2.isNaN = false
  | .dwell d => ∃ x, d.time = .float x ∧ zero ≤ x

/-- Whether the numbers of a probe operation are floats within the bounds of documents. -/
structure Probe.IsMeasured (p : Probe) : Prop where
  direction : p.direction = .int 1 ∨ p.direction = .int (-1)
  distance : ∃ x, p.distance = .float x ∧ zero ≤ x
  feedRate : ∃ x, p.feedRate = .float x ∧ zero < x
  backoff : ∃ x, p.backoff = .float x ∧ zero ≤ x
  offset : ∃ x, p.offset = .float x ∧ zero ≤ x
  moves : ∀ m ∈ p.preMoves ++ p.postMoves, m.IsMeasured

namespace Program

open Text State

/-- Whether the numbers of what was read are within the bounds of documents. -/
structure Reading.IsMeasured (r : Reading) : Prop where
  probes : ∀ p ∈ r.probes, p.IsMeasured
  start : ∀ q ∈ r.start, ∀ a, ∃ x, q.get a = .float x ∧ x.isNaN = false
  dwells : ∀ n ∈ r.dwells, 2 ≤ n
  spindle : ∀ n ∈ r.spindle, 0 ≤ n

/-! ### Moves and probe operations -/

theorem isMeasured_of_moveLine {lines : List (List Char)} {k : Nat} {line : List Char} {m : Step}
    (h : MoveLine lines k line m) : m.IsMeasured := by
  cases h with
  | rapid isRapid hasAxes => exact ⟨_, rfl, hasAxes, fun e he => isNaN_of_mem_axes he⟩
  | dwell isDwell isFree hasTime => exact ⟨_, rfl, zero_le_letterValue? hasTime⟩

theorem isStorable_of_moveLine {lines : List (List Char)} {k : Nat} {line : List Char} {m : Step}
    (h : MoveLine lines k line m) : m.IsStorable := by
  cases h with
  | rapid isRapid hasAxes =>
      refine ⟨.inl rfl, ⟨_, rfl⟩, _, rfl, fun e he => ?_⟩
      obtain ⟨e, -, rfl⟩ := List.mem_map.1 he
      exact Datum.isExact_float e.2
  | dwell isDwell isFree hasTime =>
      exact ⟨.inl rfl, ⟨_, rfl⟩, Datum.isExact_float _, zero_le_letterValue? hasTime⟩

theorem isMeasured_of_mem_probes {text : String} {p : Probe} (h : p ∈ (read text).probes) :
    p.IsMeasured := by
  have hmoves : ∀ m ∈ p.preMoves ++ p.postMoves, m.IsMeasured := by
    intro m hm
    obtain ⟨k, line, hline⟩ := moveLine_of_mem_probes h hm
    exact isMeasured_of_moveLine hline
  obtain ⟨q, hq, moves, rfl⟩ := exists_isSound_of_mem_probes h
  exact {
    direction := by
      rw [OpenProbe.close]
      cases q.forward <;> simp
    distance := ⟨_, rfl, hq.distance⟩
    feedRate := ⟨_, rfl, hq.feedRate⟩
    backoff := ⟨_, rfl, hq.zero_le_backoff⟩
    offset := ⟨_, rfl, hq.zero_le_offset⟩
    moves := hmoves }

theorem isStorable_of_mem_probes {text : String} {p : Probe} (h : p ∈ (read text).probes) :
    p.IsStorable := by
  have hmoves : ∀ m ∈ p.preMoves ++ p.postMoves, m.IsStorable := by
    intro m hm
    obtain ⟨k, line, hline⟩ := moveLine_of_mem_probes h hm
    exact isStorable_of_moveLine hline
  have hmeasured := isMeasured_of_mem_probes h
  obtain ⟨q, hq, moves, rfl⟩ := exists_isSound_of_mem_probes h
  exact {
    id := .inl rfl
    direction := hmeasured.direction
    distance := Datum.isExact_float _
    distance_nonneg := hq.distance
    feedRate := Datum.isExact_float _
    backoff := Datum.isExact_float _
    backoff_nonneg := hq.zero_le_backoff
    offset := Datum.isExact_float _
    preMoves := fun m hm => hmoves m (List.mem_append_left _ hm)
    postMoves := fun m hm => hmoves m (List.mem_append_right _ hm) }

theorem feedRate_of_mem_probes {text : String} {p : Probe} (h : p ∈ (read text).probes) :
    zero < floatOf p.feedRate := by
  obtain ⟨q, hq, moves, rfl⟩ := exists_isSound_of_mem_probes h
  exact hq.feedRate

/-! ### The head of a program -/

/-- Whether a whole number is one that a document can have for a speed. -/
structure IsSpeed (n : Int) : Prop where
  nonneg : 0 ≤ n
  isExact : (Datum.int n).IsExact

theorem IsSpeed.zero_le {n : Int} (h : IsSpeed n) : zero ≤ floatOf (.int n) := by
  have hfloat : (Number.whole n).toFloat = .ok (floatOf (.int n)) := h.isExact.float
  rw [Number.toFloat] at hfloat
  cases hx : ofInt? n with
  | none =>
      rw [hx] at hfloat
      cases hfloat
  | some x =>
      rw [hx] at hfloat
      rw [← Except.ok.inj hfloat]
      exact zero_le_ofInt? h.nonneg hx

theorem isSpeed_small {n : Nat} (h : n < 2 ^ 53) : IsSpeed n := by
  refine ⟨Int.natCast_nonneg n, Datum.isExact_int ?_⟩
  rcases Nat.eq_zero_or_pos n with rfl | hn
  · decide +kernel
  · have hc := canonical_scaled hn h
    have hlog : n.log2 < 53 := (Nat.log2_lt hn.ne').2 h
    have hparts := parts_ofSignCode false (codeOf_lt hc).le
    rw [ofCode_codeOf false hc] at hparts
    have hratio : ratio (n * 2 ^ (52 - n.log2)) (n.log2 - 52) =
        (n * 2 ^ (52 - n.log2), 2 ^ (52 - n.log2)) := by
      have h1 : ((n.log2 : Int) - 52).toNat = 0 := by omega
      have h2 : (-((n.log2 : Int) - 52)).toNat = 52 - n.log2 := by omega
      rw [ratio, h1, h2, pow_zero, mul_one]
    rw [ofInt?_small hn h, Option.any_some, Number.same, Bool.and_eq_true, beq_iff_eq,
      isWhole_iff hparts, truncate?, hparts]
    simp only [hratio]
    refine ⟨Nat.mul_mod_left _ _, ?_⟩
    rw [Nat.mul_div_cancel _ (Nat.two_pow_pos _)]
    rfl

/-- What a float that is not below zero is cut to has a float that it is equal to. -/
theorem isSpeed_of_truncate? {x : Float} {n : Int} (hx : zero ≤ x) (h : truncate? x = some n) :
    IsSpeed n := by
  rcases parts_of_zero_le hx with hparts | ⟨negative, m, e, hparts, hsign⟩
  · rw [truncate?, hparts] at h
    cases h
  · have hc := canonical_parts hparts
    have hn : n = ((ratio m e).1 / (ratio m e).2 : Nat) := by
      rw [truncate?, hparts] at h
      rw [← Option.some.inj h]
      rcases hsign with rfl | rfl
      · rfl
      · simp [ratio, signed]
    rcases le_or_gt 0 e with he | he
    · -- The units of the float are whole, so it is whole itself.
      have hwhole : isWhole x = true := by
        have hunit : (ratio m e).2 = 1 := by
          have hzero : (-e).toNat = 0 := by omega
          rw [ratio, hzero, pow_zero]
        rw [isWhole_iff hparts, hunit, Nat.mod_one]
      obtain ⟨k, hk, hfloat⟩ := ofInt?_truncate? hwhole
      obtain rfl : n = k := Option.some.inj (h.symm.trans hk)
      refine ⟨hn ▸ Int.natCast_nonneg _, Datum.isExact_int ?_⟩
      rw [hfloat, Option.any_some, Number.same, whole_settled.1 hwhole, whole_settled.2, h]
      simp
    · rw [hn]
      apply isSpeed_small
      have hzero : e.toNat = 0 := by omega
      rw [ratio, hzero, pow_zero, mul_one]
      exact (Nat.div_le_self _ _).trans_lt hc.significand

theorem isSpeed_of_setSpeed? {code : List Char} {n : Int} (h : setSpeed? code = some n) :
    IsSpeed n := by
  rw [setSpeed?] at h
  split at h
  · obtain ⟨x, hspeed, hn⟩ := Option.bind_eq_some_iff.1 h
    obtain ⟨t, ht⟩ := exists_of_firstAnywhere hspeed
    rw [speedWord?.eq_def] at ht
    split at ht
    · split at ht
      · cases ht
      · rw [← Option.some.inj ht] at hn
        exact isSpeed_of_truncate? (zero_le_nearestDecimal _ _) hn
    · cases ht
  · cases h

theorem leastRun_le_of_mem_runsFrom {index : Nat} {reversed r : List Nat} {marks : List Mark}
    (h : r ∈ runsFrom index reversed marks) : leastRun ≤ r.length := by
  induction marks generalizing index reversed with
  | nil => exact (mem_closeRun.1 h).2
  | cons mark marks ih =>
      cases mark with
      | clears | passes => exact ih h
      | ends =>
          rcases List.mem_append.1 h with h | h
          · exact (mem_closeRun.1 h).2
          · exact ih h

/-- A run that starts at a line has at least two pauses. -/
theorem leastRun_le_of_roleOf {lines : List (List Char)} {k n : Nat}
    (h : (roleOf (runs lines) k).run? = some n) : leastRun ≤ n := by
  rw [roleOf] at h
  split at h
  · next length hlookup =>
    obtain rfl := Option.some.inj h
    obtain ⟨before, after, hstarts, -⟩ := List.lookup_eq_some_iff.1 hlookup
    have hmem : (k, length) ∈ starts (runs lines) := by simp [hstarts]
    obtain ⟨r, hr, hfirst⟩ := List.mem_filterMap.1 hmem
    obtain ⟨first, -, hpair⟩ := Option.map_eq_some_iff.1 hfirst
    obtain ⟨rfl, rfl⟩ := Prod.mk.inj hpair
    exact leastRun_le_of_mem_runsFrom hr
  · split at h <;> cases h

/-- Whether what is known in a state of the head of a program is within the bounds of documents. -/
structure State.IsHeaded (st : TouchProbe.Program.State) : Prop where
  start : ∀ a, ∀ x ∈ st.start.get? a, x.isNaN = false
  dwells : ∀ n ∈ st.dwells, leastRun ≤ n
  spindle : ∀ n ∈ st.spindle, IsSpeed n

theorem isHeaded_stateAt {lines : List (List Char)} {k : Nat} (hk : k ≤ lines.length) :
    (stateAt lines k).IsHeaded := by
  induction k with
  | zero =>
      constructor
      · intro a x hx
        cases hx
      · intro n hn
        cases hn
      · intro n hn
        cases hn
  | succ k ih =>
      obtain ⟨hstart, hdwells, hspindle⟩ := ih (Nat.le_of_succ_le hk)
      have hheader := header_stateAt_succ (List.getElem?_eq_getElem hk)
      simp only [header, commanded, Header.mk.injEq] at hheader
      obtain ⟨-, spindle, dwells, start, -⟩ := hheader
      constructor
      · intro a x hx
        rw [start, ByAxis.get?_fill] at hx
        rcases Option.or_eq_some_iff.1 hx with hx | ⟨-, hx⟩
        · exact hstart a x hx
        · rw [setStart] at hx
          split at hx
          · exact isNaN_of_lookup_axes hx
          · cases hx
      · intro n hn
        rw [dwells] at hn
        rcases Option.or_eq_some_iff.1 hn with hn | ⟨-, hn⟩
        · exact hdwells n hn
        · exact leastRun_le_of_roleOf hn
      · intro n hn
        rw [spindle] at hn
        rcases Option.or_eq_some_iff.1 hn with hn | ⟨-, hn⟩
        · exact hspindle n hn
        · exact isSpeed_of_setSpeed? hn

theorem isHeaded_read (lines : List (List Char)) :
    (stateAt lines lines.length).closeProbe.IsHeaded := by
  obtain ⟨hstart, hdwells, hspindle⟩ := isHeaded_stateAt (le_refl lines.length)
  have hheader := header_closeProbe (stateAt lines lines.length)
  simp only [header, Header.mk.injEq] at hheader
  obtain ⟨-, spindle, dwells, start, -⟩ := hheader
  exact ⟨by rwa [start], by rwa [dwells], by rwa [spindle]⟩

/-- The coordinates of the start of the machine are floats, and those of the axes that are told. -/
theorem exists_of_startPosition {vs : ByAxis Float} {q : Position} (h : startPosition vs = some q)
    (a : Axis) : q.get a = .float ((vs.get? a).getD zero) := by
  rw [startPosition] at h
  split at h
  · cases h
  · rw [← Option.some.inj h]
    cases a <;> rfl

/-- The numbers that are read from a program are within the bounds of documents. -/
theorem isMeasured_read (text : String) : (read text).IsMeasured := by
  have hheaded := isHeaded_read (linesOf text)
  rw [← readLines_eq_stateAt] at hheaded
  refine ⟨fun p => isMeasured_of_mem_probes, fun q hq a => ?_, hheaded.dwells, fun n hn => ?_⟩
  · refine ⟨_, exists_of_startPosition hq a, ?_⟩
    cases hx : (readLines (linesOf text)).closeProbe.start.get? a with
    | none => exact isNaN_of_zero_le (by decide +kernel)
    | some x => exact hheaded.start a x hx
  · exact (hheaded.spindle n hn).nonneg

/-! ### Settings -/

/-- Settings that can be stored still can be when they have taken over what was read. -/
theorem isStorable_applyReading {s : Settings} (hs : s.IsStorable) (text : String) :
    (Edit.applyReading s (read text)).IsStorable := by
  have hspeed : ∀ n ∈ (read text).spindle, IsSpeed n := by
    have hheaded := isHeaded_read (linesOf text)
    rw [← readLines_eq_stateAt] at hheaded
    exact hheaded.spindle
  have hmeasured := isMeasured_read text
  have hspindle : (Edit.applyReading s (read text)).spindle.IsExact ∧
      zero ≤ floatOf (Edit.applyReading s (read text)).spindle := by
    simp only [Edit.applyReading]
    split
    · next n hn =>
      split
      · exact ⟨hs.spindle, hs.spindle_nonneg⟩
      · exact ⟨(hspeed n hn).isExact, (hspeed n hn).zero_le⟩
    · exact ⟨hs.spindle, hs.spindle_nonneg⟩
  refine ⟨fun a => ?_, ?_, ?_, ?_, hs.tool⟩
  · rw [Edit.applyReading]
    cases hstart : (read text).start with
    | none => exact hs.start a
    | some q =>
        obtain ⟨x, hx, -⟩ := hmeasured.start q hstart a
        rw [Option.getD_some, hx]
        exact Datum.isExact_float x
  · simp only [Edit.applyReading]
    split
    · next n hn =>
      split
      · exact hs.dwells
      · exact ⟨n, rfl, Int.natCast_nonneg n⟩
    · exact hs.dwells
  · exact hspindle.1
  · exact hspindle.2

end Program

namespace Document

open Program Naming

/-- Every import can be saved and opened again.  What is read from a program has numbers within the
bounds of documents only, and what becomes of settings that can be stored and of the operations that
were read has a document, which is accepted and built as the same operations, with their ids, and
the same settings. -/
theorem reopen_of_read (text : String) {s : Settings} (hs : s.IsStorable) (endings : Nat → String) :
    (read text).IsMeasured ∧
    ∃ d t, ofSequence (nameProbes endings 0 (read text).probes) (Edit.applyReading s (read text)) =
        .ok d ∧
      (∀ source, toSequence source d = .ok t) ∧
      List.Forall₂ Probe.Same (nameProbes endings 0 (read text).probes) t.operations ∧
      (Edit.applyReading s (read text)).Same t := by
  have hops : ∀ p ∈ (read text).probes, p.IsStorable := fun p => isStorable_of_mem_probes
  have hfloats : ∀ p ∈ (read text).probes, zero < floatOf p.feedRate := fun p => feedRate_of_mem_probes
  have hnamed := isStorable_nameProbes hops endings 0
  have hfeeds := floatOf_nameProbes hfloats endings 0
  have hsettings := isStorable_applyReading hs text
  obtain ⟨d, hd, hback⟩ := toSequence_ofSequence hnamed hsettings
  exact ⟨isMeasured_read text, d, _, hd, fun source => (hback source _).2 ⟨hfeeds, rfl⟩,
    forall₂_same_reopened hnamed _, same_reopened _ hsettings⟩

/-- A feed rate of zero, no retreat, and a start that is told along one axis. -/
theorem reopen_of_read_zeroFeed :
    (read "G90 G53 G0 Z-1\nM3 S800\nG38.2 Z-2 F0\nG0 X1").IsMeasured ∧
    ∃ d t, ofSequence (nameProbes toString 0 (read "G90 G53 G0 Z-1\nM3 S800\nG38.2 Z-2 F0\nG0 X1").probes)
          (Edit.applyReading .default (read "G90 G53 G0 Z-1\nM3 S800\nG38.2 Z-2 F0\nG0 X1")) = .ok d ∧
      (∀ source, toSequence source d = .ok t) ∧
      List.Forall₂ Probe.Same
        (nameProbes toString 0 (read "G90 G53 G0 Z-1\nM3 S800\nG38.2 Z-2 F0\nG0 X1").probes) t.operations ∧
      (Edit.applyReading .default (read "G90 G53 G0 Z-1\nM3 S800\nG38.2 Z-2 F0\nG0 X1")).Same t :=
  reopen_of_read _ Settings.isStorable_default toString

end Document

end TouchProbe
