import TouchProbe.Proofs.RoundTrip
import TouchProbe.Proofs.SameProgram
import TouchProbe.Proofs.StoredSequences
import TouchProbe.Proofs.Written

/-!
Stored sequences come back.  A sequence of numbers, texts and ids has a document; the document is
accepted just when all feed rates are above zero, and then it is built as the sequence that was
stored, with floats in place of the numbers that are equal to them.
-/

namespace TouchProbe

open Number
open Program (floatOf mapM_eq_ok same_of_number)

/-! ### Equal values -/

namespace Datum

/-- Whether two values are equal, where a float that is no number is equal to itself. -/
def Equal (d e : Datum) : Prop := d = e ∨ d.same e = true

/-- Whether a value is a number that is equal to its float. -/
structure IsExact (d : Datum) : Prop where
  number : d.toNumber.isOk = true
  float : d.toFloat = .ok (floatOf d)
  equal : d.Equal (.float (floatOf d))

theorem isExact_float (x : Float) : (Datum.float x).IsExact := ⟨rfl, rfl, .inl rfl⟩

/-- A whole number that its float is equal to. -/
theorem isExact_int {n : Int}
    (h : (ofInt? n).any (fun x => (Number.whole n).same (.real x)) = true) : (Datum.int n).IsExact := by
  obtain ⟨x, hfloat, hsame⟩ := (Option.any_eq_true _ _).1 h
  have hn : Datum.toFloat (.int n) = .ok x := by
    simp [Datum.toFloat, Scalar.toFloat, Scalar.toNumber, Scalar.number?, Number.toFloat, hfloat, bind,
      Except.bind]
  have hx : floatOf (.int n) = x := by rw [floatOf, hn]
  refine ⟨rfl, by rw [hx, hn], .inr ?_⟩
  rw [hx, Datum.same]
  exact hsame

end Datum

theorem exists_number {s : Scalar} (h : (Datum.scalar s).toNumber.isOk = true) :
    ∃ n, s.number? = some n := by
  rw [Datum.toNumber, Scalar.toNumber] at h
  cases hs : s.number? with
  | some n => exact ⟨n, rfl⟩
  | none =>
      rw [hs] at h
      cases h

theorem isTruthy_of_number {s : Scalar} {n : Number} (h : s.number? = some n) :
    s.isTruthy = !n.isNull := by
  cases s <;> simp_all [Scalar.isTruthy, Scalar.number?]

/-- A whole number that a float is equal to is zero just when the float is. -/
theorem isNull_of_same {k : Int} {x : Float} (h : (Number.whole k).same (.real x) = true) :
    (Number.whole k).isNull = isZero x := by
  simp only [Number.same, Bool.and_eq_true, beq_iff_eq] at h
  obtain ⟨hwhole, hk⟩ := h
  cases hparts : parts x with
  | nan => simp [truncate?, hparts] at hk
  | infinite negative => simp [truncate?, hparts] at hk
  | finite negative m e =>
      simp only [truncate?, hparts, Option.some.injEq] at hk
      have hdvd := Nat.dvd_of_mod_eq_zero ((isWhole_iff hparts).1 hwhole)
      have hzero : (ratio m e).1 / (ratio m e).2 = 0 ↔ m = 0 := by
        constructor
        · intro hquotient
          have hnumerator := Nat.eq_zero_of_dvd_of_div_eq_zero hdvd hquotient
          simpa [ratio] using hnumerator
        · rintro rfl
          simp [ratio]
      generalize (ratio m e).1 / (ratio m e).2 = q at hk hzero
      rw [Number.isNull, isZero, hparts, ← hk, Bool.eq_iff_iff, beq_iff_eq, beq_iff_eq, ← hzero]
      cases negative <;> simp [signed]

/-- A scalar that is equal to its float counts as true just when the float does. -/
theorem isTruthy_of_isExact {s : Scalar} (h : (Datum.scalar s).IsExact) :
    s.isTruthy = (Scalar.float (floatOf (.scalar s))).isTruthy := by
  obtain ⟨n, hs⟩ := exists_number h.number
  rcases h.equal with hequal | hequal
  · rw [← Datum.scalar.inj hequal]
  · rw [Datum.same, same_of_number hs rfl] at hequal
    rw [isTruthy_of_number hs, isTruthy_of_number (s := .float _) rfl]
    cases n with
    | whole k =>
        rw [isNull_of_same hequal]
        rfl
    | real x =>
        obtain rfl : s = .float x := by cases s <;> simp_all [Scalar.number?]
        rfl

/-! ### What can be stored -/

/-- Whether an id is a text that is not empty, or made up. -/
def Ident.IsStorable (i : Ident) : Prop := i = .made ∨ ∃ s : String, s ≠ "" ∧ i = .given (.text s)

/-- Whether a step has a document: its numbers are exact, and its description and its id are
texts. -/
def Step.IsStorable : Step → Prop
  | .rapid r => r.id.IsStorable ∧ (∃ s, r.description = .text s) ∧
      ∃ vs, r.axes = .values vs ∧ ∀ e ∈ vs.entries, e.2.IsExact
  | .dwell d => d.id.IsStorable ∧ (∃ s, d.description = .text s) ∧ (Datum.scalar d.time).IsExact ∧
      zero ≤ floatOf (.scalar d.time)

structure Probe.IsStorable (p : Probe) : Prop where
  id : p.id.IsStorable
  direction : p.direction = .int 1 ∨ p.direction = .int (-1)
  distance : (Datum.scalar p.distance).IsExact
  distance_nonneg : zero ≤ floatOf (.scalar p.distance)
  feedRate : p.feedRate.IsExact
  backoff : (Datum.scalar p.backoff).IsExact
  backoff_nonneg : zero ≤ floatOf (.scalar p.backoff)
  offset : p.offset.IsExact
  preMoves : ∀ m ∈ p.preMoves, m.IsStorable
  postMoves : ∀ m ∈ p.postMoves, m.IsStorable

/-- Whether a tool has a document that is accepted. -/
structure Tool.IsStorable (t : Tool) : Prop where
  input : ∃ s, t.input = .text s
  size : t.size.IsExact
  size_nonneg : zero ≤ floatOf t.size

structure Settings.IsStorable (s : Settings) : Prop where
  start (a : Axis) : (s.start.get a).IsExact
  dwells : ∃ n : Int, s.dwells = .int n ∧ 0 ≤ n
  spindle : s.spindle.IsExact
  spindle_nonneg : zero ≤ floatOf s.spindle
  tool : s.tool.IsStorable

/-- The settings of a new sequence can be stored. -/
theorem Settings.isStorable_default : Settings.default.IsStorable where
  start a := by cases a <;> exact Datum.isExact_float _
  dwells := ⟨15, rfl, by decide⟩
  spindle := Datum.isExact_int (n := 5000) (by decide +kernel)
  spindle_nonneg := show zero ≤ floatOf (.int 5000) by decide +kernel
  tool := ⟨⟨_, rfl⟩, Datum.isExact_float _,
    show zero ≤ nearestDecimal false 3175 (-3) by decide +kernel⟩

/-! ### What comes back -/

def RapidAxes.Same : RapidAxes → RapidAxes → Prop
  | values vs, values ws => List.Forall₂ (fun e f => e.1 = f.1 ∧ e.2.Equal f.2) vs.entries ws.entries
  | _, _ => False

/-- Whether a step is the same as another one; an id that is made up may have a name instead. -/
def Step.Same : Step → Step → Prop
  | .rapid r, .rapid s => r.id.orNamed unnamedStep = s.id ∧ r.description = s.description ∧
      r.axes.Same s.axes ∧ r.mode = s.mode ∧ r.system = s.system
  | .dwell d, .dwell e => d.id.orNamed unnamedStep = e.id ∧ d.description = e.description ∧
      (Datum.scalar d.time).Equal (.scalar e.time)
  | _, _ => False

structure Probe.Same (p q : Probe) : Prop where
  id : p.id.orNamed unnamedProbe = q.id
  axis : p.axis = q.axis
  direction : p.direction = q.direction
  distance : (Datum.scalar p.distance).Equal (.scalar q.distance)
  feedRate : p.feedRate.Equal q.feedRate
  backoff : (Datum.scalar p.backoff).Equal (.scalar q.backoff)
  offset : p.offset.Equal q.offset
  preMoves : List.Forall₂ Step.Same p.preMoves q.preMoves
  postMoves : List.Forall₂ Step.Same p.postMoves q.postMoves

/-- Whether settings are the same, whatever operations they carry. -/
structure Settings.Same (s t : Settings) : Prop where
  start (a : Axis) : (s.start.get a).Equal (t.start.get a)
  dwells : s.dwells = t.dwells
  spindle : s.spindle.Equal t.spindle
  units : s.units = t.units
  input : s.tool.input = t.tool.input
  unit : s.tool.unit = t.tool.unit
  size : s.tool.size.Equal t.tool.size

/-! ### Documents -/

namespace Document

open Validated

def storedId (unnamed : String) (i : Ident) : String := (i.datum unnamed).plain

def storedAxes : RapidAxes → ByAxis Float
  | .values vs => vs.map floatOf
  | .names _ | .letters _ => .empty

def storedStep : Step → StoredStep
  | .rapid r => .rapid (some (storedId unnamedStep r.id)) r.description.plain (storedAxes r.axes)
      r.mode r.system
  | .dwell d => .dwell (some (storedId unnamedStep d.id)) d.description.plain (floatOf (.scalar d.time))

def storedProbe (p : Probe) : StoredProbe where
  id := some (storedId unnamedProbe p.id)
  axis := p.axis
  direction := if p.isForward then 1 else -1
  distance := floatOf (.scalar p.distance)
  feedRate := floatOf p.feedRate
  backoff := floatOf (.scalar p.backoff)
  offset := floatOf p.offset
  preMoves := p.preMoves.map storedStep
  postMoves := p.postMoves.map storedStep

def storedSettings (s : Settings) : Settings where
  start := ⟨.float (floatOf s.start.x), .float (floatOf s.start.y), .float (floatOf s.start.z)⟩
  dwells := s.dwells
  spindle := .float (floatOf s.spindle)
  units := s.units
  tool := ⟨s.tool.input, s.tool.unit, .float (floatOf s.tool.size)⟩
  operations := []

theorem datum_of_isStorable {i : Ident} (h : i.IsStorable) (unnamed : String) :
    i.datum unnamed = .text (storedId unnamed i) := by
  rcases h with rfl | ⟨s, -, rfl⟩ <;> rfl

theorem idOf_storedId {i : Ident} (h : i.IsStorable) {unnamed : String} (hne : unnamed ≠ "") :
    idOf (some (storedId unnamed i)) = i.orNamed unnamed := by
  have hkept {s : String} (hs : s ≠ "") : idOf (some s) = .given (.text s) := by
    have hfull : s.isEmpty = false := by rwa [← Bool.not_eq_true, String.isEmpty_iff]
    rw [idOf, hfull, if_neg Bool.false_ne_true]
  rcases h with rfl | ⟨s, hs, rfl⟩
  · exact hkept hne
  · exact hkept hs

theorem floatDatum_eq {d : Datum} (h : d.IsExact) : floatDatum d = .ok (.float (floatOf d)) := by
  rw [floatDatum, h.float]
  rfl

theorem stepDatum_eq {s : Step} (h : s.IsStorable) : stepDatum s = .ok (storedStep s).datum := by
  cases s with
  | rapid r =>
      obtain ⟨hid, ⟨description, hdescription⟩, vs, hvs, hnumbers⟩ := h
      have haxes : axesDatum vs =
          .ok (.mapping ((vs.map floatOf).entries.map fun e => (.text e.1.name, .float e.2))) := by
        have hentries := mapM_eq_ok (f := fun e : Axis × Datum =>
          return (Datum.text e.1.name, ← floatDatum e.2)) fun e he => by
            rw [floatDatum_eq (hnumbers e he)]
            rfl
        rw [axesDatum, ByAxis.map, List.map_map]
        exact congrArg (fun es => es >>= fun es => Except.ok (Datum.mapping es)) hentries
      simp only [stepDatum, hvs, RapidAxes.toValues, datum_of_isStorable hid, hdescription, storedStep,
        storedAxes, StoredStep.datum, idDatum, Datum.plain, Scalar.plain]
      change (do let axes ← axesDatum vs; _) = _
      rw [haxes]
      rfl
  | dwell d =>
      obtain ⟨hid, ⟨description, hdescription⟩, htime, -⟩ := h
      simp only [stepDatum, floatDatum_eq htime, datum_of_isStorable hid, hdescription, storedStep,
        StoredStep.datum, idDatum, Datum.plain, Scalar.plain]
      rfl

theorem direction_of_isStorable {p : Probe} (h : p.IsStorable) :
    p.direction = .int (if p.isForward then 1 else -1) := by
  rcases h.direction with hd | hd
  · rw [Probe.isForward, hd]
    rfl
  · rw [Probe.isForward, hd]
    rfl

theorem probeDatum_eq {p : Probe} (h : p.IsStorable) : probeDatum p = .ok (storedProbe p).datum := by
  have hpre := mapM_eq_ok fun m hm => stepDatum_eq (h.preMoves m hm)
  have hpost := mapM_eq_ok fun m hm => stepDatum_eq (h.postMoves m hm)
  rw [probeDatum, hpre, hpost, floatDatum_eq h.distance, floatDatum_eq h.feedRate,
    floatDatum_eq h.backoff, floatDatum_eq h.offset, datum_of_isStorable h.id, StoredProbe.datum,
    storedProbe, List.map_map, List.map_map, direction_of_isStorable h]
  rfl

/-- A number that is equal to its float is read as its float. -/
theorem float_of_isExact {d : Datum} (h : d.IsExact) : float d = valid (floatOf d) := by
  have hnumber := h.number
  have hfloat := h.float
  cases d with
  | scalar s =>
      obtain ⟨n, hn⟩ := exists_number hnumber
      have hn' : n.toFloat = .ok (floatOf (.scalar s)) := by
        cases s with
        | null => cases hn
        | text t => cases hn
        | _ =>
            obtain rfl := Option.some.inj hn
            exact hfloat
      have htext : textOf? (.scalar s) = none := by cases s <;> first | rfl | cases hn
      rw [float.eq_def]
      simp only [htext, hn, hn']
  | _ => cases hnumber

theorem settingsDatum_eq {s : Settings} (h : s.IsStorable) :
    ∃ d, settingsDatum s = .ok d ∧ settings d = valid (storedSettings s) := by
  obtain ⟨n, hn, hcount⟩ := h.dwells
  obtain ⟨input, hinput⟩ := h.tool.input
  have hx : floatDatum s.start.x = _ := floatDatum_eq (h.start .x)
  have hy : floatDatum s.start.y = _ := floatDatum_eq (h.start .y)
  have hz : floatDatum s.start.z = _ := floatDatum_eq (h.start .z)
  have hspindle : nonNegative s.spindle = valid (floatOf s.spindle) :=
    nonNegative_eq_valid.2 ⟨float_of_isExact h.spindle, h.spindle_nonneg⟩
  have hsize : nonNegative (.float (floatOf s.tool.size)) = valid (floatOf s.tool.size) :=
    nonNegative_eq_valid.2 ⟨rfl, h.tool.size_nonneg⟩
  have hdwells : count (.int n) = valid n := count_eq_valid.2 ⟨rfl, hcount⟩
  refine ⟨.record [
    ("initial_position", .record [("x", .float (floatOf s.start.x)), ("y", .float (floatOf s.start.y)),
      ("z", .float (floatOf s.start.z))]),
    ("dwells_before_probe", .int n),
    ("spindle_speed", s.spindle),
    ("units", .text s.units.name),
    ("endmill_size", .record [("input", s.tool.input), ("unit", .text s.tool.unit.name),
      ("size_in_mm", .float (floatOf s.tool.size))])], ?_, ?_⟩
  · rw [settingsDatum, hx, hy, hz, floatDatum_eq h.tool.size, hn]
    rfl
  · simp [settings, record, position, tool, Document.optional, seq_eq_valid, map_eq_valid,
      within_eq_valid, hspindle, hsize, hdwells, hinput, hn, storedSettings]

/-! ### The way back -/

/-- The sequence that comes back from the document of a sequence. -/
def reopened (operations : List Probe) (s : Settings) : Settings :=
  { storedSettings s with operations := operations.map fun p => (storedProbe p).probe }

theorem isSound_storedStep {s : Step} (h : s.IsStorable) : (storedStep s).IsSound := by
  cases s with
  | rapid r => trivial
  | dwell d => exact h.2.2.2

theorem isSound_storedProbe {p : Probe} (h : p.IsStorable) :
    (storedProbe p).IsSound ↔ zero < floatOf p.feedRate := by
  have hsteps {moves : List Step} (hmoves : ∀ m ∈ moves, m.IsStorable) :
      ∀ m ∈ moves.map storedStep, m.IsSound := by
    rw [List.forall_mem_map]
    exact fun m hm => isSound_storedStep (hmoves m hm)
  refine ⟨StoredProbe.IsSound.feedRate, fun hfeed => ?_⟩
  exact {
    direction := by
      rw [storedProbe]
      cases p.isForward <;> simp
    distance := h.distance_nonneg
    feedRate := hfeed
    backoff := h.backoff_nonneg
    preMoves := hsteps h.preMoves
    postMoves := hsteps h.postMoves }

/-- A document is checked by its parts. -/
theorem sequenceFile_parts {d e : Datum} {f : SequenceFile} :
    sequenceFile (.record [("schema", .text formatName), ("settings", d), ("operations", e)]) = valid f ↔
      settings d = valid f.settings ∧ list probe e = valid f.operations := by
  have hformat : format (.text formatName) = valid () := by simp [format, andThen]
  obtain ⟨s, operations⟩ := f
  simp [sequenceFile, record, formatField, Document.optional, seq_eq_valid, map_eq_valid, within_eq_valid,
    hformat]

theorem exists_toSequence_iff {source : String} {d e : Datum} :
    (∃ s, toSequence source (.record [("schema", .text formatName), ("settings", d),
        ("operations", e)]) = .ok s) ↔
      (∃ s, settings d = valid s) ∧ ∃ ps, list probe e = valid ps := by
  simp only [toSequence_eq_ok, sequenceFile_parts]
  constructor
  · rintro ⟨-, f, ⟨hsettings, hlist⟩, -⟩
    exact ⟨⟨_, hsettings⟩, _, hlist⟩
  · rintro ⟨⟨s, hsettings⟩, ps, hlist⟩
    exact ⟨_, ⟨s, ps⟩, ⟨hsettings, hlist⟩, rfl⟩

theorem sequenceFile_record {d : Datum} {s : Settings} (h : settings d = valid s)
    (operations : List StoredProbe) (f : SequenceFile) :
    sequenceFile (.record [("schema", .text formatName), ("settings", d),
        ("operations", .list (operations.map StoredProbe.datum))]) = valid f ↔
      ⟨s, operations⟩ = f ∧ ∀ p ∈ operations, p.IsSound := by
  obtain ⟨t, ps⟩ := f
  rw [sequenceFile_parts, h, list_written probe_datum operations]
  simp [and_assoc]

/-- A sequence that can be stored has a document.  It is accepted just when the feed rates are above
zero, and then it is built as the sequence with floats. -/
theorem toSequence_ofSequence {operations : List Probe} {s : Settings}
    (hops : ∀ p ∈ operations, p.IsStorable) (hs : s.IsStorable) :
    ∃ d, ofSequence operations s = .ok d ∧ ∀ source t, toSequence source d = .ok t ↔
      (∀ p ∈ operations, zero < floatOf p.feedRate) ∧ reopened operations s = t := by
  obtain ⟨d, hd, hchecked⟩ := settingsDatum_eq hs
  have hprobes := mapM_eq_ok fun p hp => probeDatum_eq (hops p hp)
  refine ⟨_, by rw [ofSequence, hd, hprobes]; rfl, fun source t => ?_⟩
  have hsound : (∀ q ∈ operations.map storedProbe, q.IsSound) ↔
      ∀ p ∈ operations, zero < floatOf p.feedRate := by
    rw [List.forall_mem_map]
    exact forall₂_congr fun p hp => isSound_storedProbe (hops p hp)
  have hmap : operations.map (fun p => (storedProbe p).datum) =
      (operations.map storedProbe).map StoredProbe.datum := by rw [List.map_map]; rfl
  rw [toSequence_eq_ok, hmap]
  -- What is stored of an operation is sound already, up to its feed rate.
  simp only [sequenceFile_record hchecked, hsound]
  constructor
  · rintro ⟨f, ⟨rfl, hfeeds⟩, rfl⟩
    refine ⟨hfeeds, ?_⟩
    rw [reopened, SequenceFile.sequence, List.map_map]
    rfl
  · rintro ⟨hfeeds, rfl⟩
    refine ⟨_, ⟨rfl, hfeeds⟩, ?_⟩
    rw [reopened, SequenceFile.sequence, List.map_map]
    rfl

/-! ### What comes back is the same -/

theorem same_storedStep {s : Step} (h : s.IsStorable) : s.Same (storedStep s).step := by
  cases s with
  | rapid r =>
      obtain ⟨hid, ⟨description, hdescription⟩, vs, hvs, hnumbers⟩ := h
      refine ⟨(idOf_storedId hid (by decide)).symm, by rw [hdescription]; rfl, ?_, rfl, rfl⟩
      rw [hvs]
      change List.Forall₂ _ vs.entries ((vs.entries.map _).map _)
      rw [List.map_map, List.forall₂_map_right_iff, List.forall₂_same]
      exact fun e he => ⟨rfl, (hnumbers e he).equal⟩
  | dwell d =>
      obtain ⟨hid, ⟨description, hdescription⟩, htime, -⟩ := h
      exact ⟨(idOf_storedId hid (by decide)).symm, by rw [hdescription]; rfl, htime.equal⟩

theorem same_storedSteps {moves : List Step} (h : ∀ m ∈ moves, m.IsStorable) :
    List.Forall₂ Step.Same moves ((moves.map storedStep).map StoredStep.step) := by
  rw [List.map_map, List.forall₂_map_right_iff, List.forall₂_same]
  exact fun m hm => same_storedStep (h m hm)

theorem same_storedProbe {p : Probe} (h : p.IsStorable) : p.Same (storedProbe p).probe where
  id := (idOf_storedId h.id (by decide)).symm
  axis := rfl
  direction := direction_of_isStorable h
  distance := h.distance.equal
  feedRate := h.feedRate.equal
  backoff := h.backoff.equal
  offset := h.offset.equal
  preMoves := same_storedSteps h.preMoves
  postMoves := same_storedSteps h.postMoves

theorem forall₂_same_reopened {operations : List Probe} (h : ∀ p ∈ operations, p.IsStorable)
    (s : Settings) : List.Forall₂ Probe.Same operations (reopened operations s).operations := by
  rw [reopened, List.forall₂_map_right_iff, List.forall₂_same]
  exact fun p hp => same_storedProbe (h p hp)

theorem same_reopened (operations : List Probe) {s : Settings} (h : s.IsStorable) :
    s.Same (reopened operations s) where
  start a := by
    have hstart := (h.start a).equal
    cases a <;> exact hstart
  dwells := rfl
  spindle := h.spindle.equal
  units := rfl
  input := rfl
  unit := rfl
  size := h.tool.size.equal

end Document

/-! ### The same program -/

namespace Program

open Document

theorem writeNumber_floatOf {d : Datum} (h : d.IsExact) :
    writeNumber (.float (floatOf d)) = writeNumber d := by
  rw [writeNumber, writeNumber, h.float]
  rfl

theorem stepLine?_storedStep {s : Step} (h : s.IsStorable) :
    stepLine? (storedStep s).step = stepLine? s := by
  cases s with
  | rapid r =>
      obtain ⟨-, ⟨description, hdescription⟩, vs, hvs, hnumbers⟩ := h
      have haxes : (storedAxes r.axes).map Datum.float = vs.map fun d => .float (floatOf d) := by
        rw [hvs]
        exact ByAxis.ext (List.map_map ..)
      have hword : ∀ e ∈ vs.entries, SameWord (.float (floatOf e.2)) e.2 := fun e he =>
        ⟨(hnumbers e he).number.symm, writeNumber_floatOf (hnumbers e he)⟩
      have hline := stepLine?_rapid_congr (f := fun d => .float (floatOf d)) hvs hword
        (idOf (some (storedId unnamedStep r.id)))
      rw [hdescription] at hline
      rw [storedStep, StoredStep.step, haxes, hdescription]
      exact hline
  | dwell d =>
      obtain ⟨-, ⟨description, hdescription⟩, htime, -⟩ := h
      have hline := stepLine?_dwell_congr (d := d) (isTruthy_of_isExact htime).symm
        (writeNumber_floatOf htime) (idOf (some (storedId unnamedStep d.id)))
      rw [hdescription] at hline
      rw [storedStep, StoredStep.step, hdescription]
      exact hline

theorem map_stepLine?_storedStep {moves : List Step} (h : ∀ m ∈ moves, m.IsStorable) :
    ((moves.map storedStep).map StoredStep.step).map stepLine? = moves.map stepLine? := by
  rw [List.map_map, List.map_map]
  exact List.map_congr_left fun m hm => stepLine?_storedStep (h m hm)

theorem writesAs_storedProbe {p : Probe} (h : p.IsStorable) :
    WritesAs (storedProbe p).probe p where
  axis := rfl
  forward := by
    rw [Probe.isForward, StoredProbe.probe, storedProbe]
    cases p.isForward <;> rfl
  distance := writeNumber_floatOf h.distance
  feedRate := writeNumber_floatOf h.feedRate
  backoff := writeNumber_floatOf h.backoff
  offset := writeNumber_floatOf h.offset
  preMoves := map_stepLine?_storedStep h.preMoves
  postMoves := map_stepLine?_storedStep h.postMoves

theorem exists_bind {ε α β : Type} {x : Except ε α} {f : α → Except ε β} {a : α} (hx : x = .ok a)
    (hf : ∃ b, f a = .ok b) : ∃ b, (x >>= f) = .ok b := by
  rw [hx]
  exact hf

theorem exists_mapM {ε α β : Type} {f : α → Except ε β} {l : List α}
    (h : ∀ a ∈ l, ∃ b, f a = .ok b) : ∃ bs, l.mapM f = .ok bs := by
  induction l with
  | nil => exact ⟨[], rfl⟩
  | cons a l ih =>
      obtain ⟨b, hb⟩ := h a List.mem_cons_self
      obtain ⟨bs, hbs⟩ := ih fun c hc => h c (List.mem_cons_of_mem a hc)
      exact ⟨b :: bs, mapM_cons_eq_ok.2 ⟨b, hb, bs, hbs, rfl⟩⟩

theorem exists_stepLine? {s : Step} (h : s.IsStorable) : ∃ l, stepLine? s = .ok l := by
  cases s with
  | rapid r =>
      obtain ⟨-, -, vs, hvs, hnumbers⟩ := h
      obtain ⟨words, hwords⟩ : ∃ words, axisWords vs = .ok words := by
        apply exists_mapM
        intro e he
        have hnumber := writeNumber_of_float (hnumbers e (List.mem_of_mem_filter he)).float
        rw [hnumber]
        exact ⟨_, rfl⟩
      rw [stepLine?, hvs, RapidAxes.toValues]
      refine exists_bind rfl (exists_bind hwords ?_)
      split
      · exact ⟨_, rfl⟩
      · exact ⟨_, rfl⟩
  | dwell d =>
      obtain ⟨-, -, htime, -⟩ := h
      rw [stepLine?, writeNumber_of_float htime.float]
      split
      · exact ⟨_, rfl⟩
      · exact ⟨_, rfl⟩

theorem exists_movesLines {moves : List Step} (h : ∀ m ∈ moves, m.IsStorable) (banner : String) :
    ∃ ls, movesLines moves banner = .ok ls := by
  obtain ⟨ls, hls⟩ := exists_mapM fun m hm => exists_stepLine? (h m hm)
  rw [movesLines, hls]
  split
  · exact ⟨_, rfl⟩
  · exact ⟨_, rfl⟩

theorem exists_operationLines {p : Probe} (h : p.IsStorable) {dwells : Datum} {count : Nat}
    (hdwells : pauseCount dwells = .ok count) (number : Nat) :
    ∃ ls, operationLines dwells number p = .ok ls := by
  obtain ⟨pre, hpre⟩ := exists_movesLines h.preMoves s!"Pre-moves for Probe Operation {number}"
  obtain ⟨post, hpost⟩ := exists_movesLines h.postMoves s!"Post-moves for Probe Operation {number}"
  rw [operationLines, hpre, hpost, hdwells, probeLines, writeNumber_of_float h.distance.float,
    writeNumber_of_float h.feedRate.float, writeNumber_of_float h.offset.float,
    writeNumber_of_float h.backoff.float]
  exact ⟨_, rfl⟩

/-- A sequence that can be stored has a program. -/
theorem exists_write_of_isStorable {operations : List Probe} {s : Settings}
    (hops : ∀ p ∈ operations, p.IsStorable) (hs : s.IsStorable) :
    ∃ program, write operations s = .ok program := by
  obtain ⟨n, hn, -⟩ := hs.dwells
  have hdwells : pauseCount s.dwells = .ok n.toNat := by
    rw [hn]
    rfl
  have hhead : HasFloats s := ⟨fun a => (hs.start a).float, hs.spindle.float⟩
  obtain ⟨middle, hmiddle⟩ := exists_mapM (l := operations.zipIdx) fun p hp =>
    exists_operationLines (hops p.1 (List.fst_mem_of_mem_zipIdx hp)) hdwells (p.2 + 1)
  rw [write, lines, headLines_eq hhead, hmiddle]
  exact ⟨_, rfl⟩

/-- A sequence that comes back from its document has the program that it had. -/
theorem write_reopened {operations : List Probe} {s : Settings}
    (hops : ∀ p ∈ operations, p.IsStorable) (hs : s.IsStorable) :
    write (reopened operations s).operations (reopened operations s) = write operations s := by
  apply write_congr
  · rw [reopened, List.forall₂_map_left_iff, List.forall₂_same]
    exact fun p hp => writesAs_storedProbe (hops p hp)
  · constructor
    · intro a
      have hstart := writeNumber_floatOf (hs.start a)
      cases a <;> exact hstart
    · exact writeNumber_floatOf hs.spindle
    · rfl
    · rfl

end Program

end TouchProbe
