import TouchProbe.Proofs.ConfigFaults
import TouchProbe.Proofs.Reopening

/-!
What can be done with a configuration that was loaded.  A new probe is built from its template, and
has a document with its settings.  The tests of a configuration refuse what is out of range, and a
float that is no number is neither below zero nor at most zero: so the numbers are in their ranges
just when there is no such float where a range is tested.  The size of the tool is computed and not
tested, and a document takes none below zero.
-/

namespace TouchProbe

open Number
open Program (floatOf)

namespace Number

/-! ### Comparisons with zero -/

theorem le_zero_iff {x : Float} {negative : Bool} {m : Nat} {e : Int}
    (h : parts x = .finite negative m e) : x ≤ zero ↔ negative = true ∨ m = 0 := by
  rw [le_iff, h, parts_zero]
  by_cases hm : m = 0 <;> cases negative <;> simp [unpacked, hm, signOf] <;> rfl

/-- How a float compares with zero: one that is no number does not compare, and any other one is
below zero, a zero, or above zero. -/
theorem compares_zero (x : Float) :
    (¬ x < zero → (zero ≤ x ↔ x.isNaN = false)) ∧ (¬ x ≤ zero → (zero < x ↔ x.isNaN = false)) ∧
      (x < zero → x ≤ zero) := by
  rw [isNaN_eq_false]
  cases hparts : parts x with
  | finite negative m e =>
      rw [lt_zero_iff hparts, zero_le_iff hparts, le_zero_iff hparts, zero_lt_iff hparts]
      cases negative <;> simp
  | infinite negative =>
      rw [lt_iff, lt_iff, le_iff, le_iff, parts_zero, hparts]
      cases negative <;> decide
  | nan =>
      rw [lt_iff, lt_iff, le_iff, le_iff, parts_zero, hparts]
      decide

variable {x : Float}

theorem zero_le_iff_of_not_lt (h : ¬ x < zero) : zero ≤ x ↔ x.isNaN = false := (compares_zero x).1 h

theorem zero_lt_iff_of_not_le (h : ¬ x ≤ zero) : zero < x ↔ x.isNaN = false := (compares_zero x).2.1 h

theorem not_lt_zero_of_not_le (h : ¬ x ≤ zero) : ¬ x < zero := fun hlt => h ((compares_zero x).2.2 hlt)

end Number

/-! ### What is loaded -/

/-- Whether settings hold what is read of a configuration: floats, a whole number, and a tool with
the size that its text has. -/
structure Settings.IsPlain (s : Settings) : Prop where
  start (a : Axis) : ∃ x, s.start.get a = .float x
  dwells : ∃ n, s.dwells = .int n
  spindle : ∃ x, s.spindle = .float x
  tool : ∃ text, s.tool.input = .text text ∧
    s.tool.size = .float (ToolSize.parse text s.tool.unit.name)

/-- Whether a configuration has passed the tests of its ranges. -/
structure Config.IsTested (c : Config) : Prop where
  plain : c.settings.IsPlain
  dwells (n : Int) : c.settings.dwells = .int n → 0 ≤ n
  spindle : ¬ floatOf c.settings.spindle < zero
  direction : c.template.direction = 1 ∨ c.template.direction = -1
  distance : ¬ c.template.distance ≤ zero
  feedRate : ¬ c.template.feedRate ≤ zero
  backoff : ¬ c.template.backoff ≤ zero

namespace Defaults

theorem name_of_chooseNamed {α : Type} {all : List α} {name : α → String} {fault : String → Fault}
    {text : String} {a : α} (h : chooseNamed all name fault (.text text) = .ok a) : name a = text := by
  rw [chooseNamed] at h
  split at h
  · next found hfound =>
    obtain rfl := Except.ok.inj h
    have hname := List.find?_some hfound
    exact beq_iff_eq.1 hname
  · cases h

theorem tool_of_build {input unit : String} {tool : Tool}
    (h : Tool.build (some (.text input)) (some (.text unit))
      (some (.float (ToolSize.parse input unit))) = .ok tool) :
    tool.input = .text input ∧ tool.size = .float (ToolSize.parse input tool.unit.name) := by
  obtain ⟨u, hu, h⟩ := bind_eq_ok.1 h
  obtain rfl := Except.ok.inj h
  have hname : u.name = unit := name_of_chooseNamed hu
  exact ⟨rfl, by rw [hname]; rfl⟩

theorem isPlain_of_values {d : Datum} {c : Defaults} (h : values d = .ok c) :
    c.settings.IsPlain := by
  obtain ⟨_, hsettings⟩ := exists_of_values h
  obtain ⟨x, y, z, n, spindle, input, unit, hstart, hn, hspindle, htool⟩ :=
    settingsOf_eq_ok hsettings
  exact {
    start := fun a => by
      rw [hstart]
      cases a <;> exact ⟨_, rfl⟩
    dwells := ⟨n, hn⟩
    spindle := ⟨spindle, hspindle⟩
    tool := ⟨input, tool_of_build htool⟩ }

theorem not_le_of_checkLength {name : String} {x : Float} (h : checkLength name x = .ok ()) :
    ¬ x ≤ zero := by
  rw [checkLength] at h
  split at h
  · cases h
  · assumption

theorem mapError_eq_ok {ε ε' α : Type} {g : ε → ε'} {x : Except ε α} {a : α} :
    x.mapError g = .ok a ↔ x = .ok a := by
  cases x <;> simp [Except.mapError]

theorem isTested_of_checkOthers {v : Defaults} (hv : v.settings.IsPlain) {n : Int}
    (hn : v.settings.dwells = .int n) (hle : 0 ≤ n) {c : Config} (h : v.checkOthers = .ok c) :
    c.IsTested := by
  obtain ⟨x, hx⟩ := hv.spindle
  by_cases hlt : x < zero
  · rw [checkOthers_of_negative hx hlt] at h
    cases h
  cases hname : Axis.ofName? v.axisName with
  | none =>
      rw [checkOthers_of_no_axis hx hlt hname] at h
      cases h
  | some a =>
      by_cases hdirection : v.direction = 1 ∨ v.direction = -1
      · rw [checkOthers_of_unit hx hlt hname hdirection] at h
        obtain ⟨_, hdistance, h⟩ := bind_eq_ok.1 h
        obtain ⟨_, hfeedRate, h⟩ := bind_eq_ok.1 h
        obtain ⟨_, hbackoff, h⟩ := bind_eq_ok.1 h
        obtain rfl := Except.ok.inj h
        exact {
          plain := hv
          dwells := fun k hk => by
            obtain rfl : n = k := by simpa using hn.symm.trans hk
            exact hle
          spindle := by rwa [hx]
          direction := hdirection
          distance := not_le_of_checkLength hdistance
          feedRate := not_le_of_checkLength hfeedRate
          backoff := not_le_of_checkLength hbackoff }
      · rw [checkOthers_of_bad_direction hx hlt hname hdirection] at h
        cases h

theorem isTested_of_check {v : Defaults} (hv : v.settings.IsPlain) {c : Config}
    (h : v.check = .ok c) : c.IsTested := by
  obtain ⟨n, hn⟩ := hv.dwells
  rcases lt_or_ge n 0 with hlt | hle
  · rw [check_of_negative hn hlt] at h
    cases h
  · rw [check_of_nonneg hn hle, mapError_eq_ok] at h
    exact isTested_of_checkOthers hv hn hle h

end Defaults

theorem Config.isTested_of_load {t : FileTree} {a : Address} {c : Config}
    (h : Config.load t a = .ok c) : c.IsTested := by
  rw [Config.load] at h
  split at h
  · cases h
  · obtain ⟨d, -, h⟩ := bind_eq_ok.1 h
    obtain ⟨v, hv, h⟩ := bind_eq_ok.1 h
    rw [Defaults.ofDatum, Defaults.mapError_eq_ok] at hv
    exact Defaults.isTested_of_check (Defaults.isPlain_of_values hv) h

/-- The configuration that comes with the program would pass the tests of a loaded one. -/
theorem Config.isTested_packaged : Config.packaged.IsTested where
  plain := {
    start := fun a => by cases a <;> exact ⟨_, rfl⟩
    dwells := ⟨15, rfl⟩
    spindle := ⟨_, rfl⟩
    tool := ⟨"1/8", rfl, congrArg Datum.float (parts_injective (by decide +kernel))⟩ }
  dwells n hn := by
    obtain rfl : 15 = n := Scalar.int.inj (Datum.scalar.inj hn)
    decide
  spindle := by decide +kernel
  direction := .inr rfl
  distance := by decide +kernel
  feedRate := by decide +kernel
  backoff := by decide +kernel

/-! ### The first probe -/

namespace ProbeTemplate

/-- The probe operation that is added with a template. -/
def probe (t : ProbeTemplate) : Probe where
  axis := t.axis
  direction := .int t.direction
  distance := .float t.distance
  feedRate := .float t.feedRate
  backoff := .float t.backoff
  offset := .float t.offset
  preMoves := []
  postMoves := []
  id := .made

def stored (t : ProbeTemplate) : Document.StoredProbe where
  id := some unnamedProbe
  axis := t.axis
  direction := t.direction
  distance := t.distance
  feedRate := t.feedRate
  backoff := t.backoff
  offset := t.offset
  preMoves := []
  postMoves := []

theorem probeDatum_probe (t : ProbeTemplate) :
    Document.probeDatum t.probe = .ok t.stored.datum := rfl

end ProbeTemplate

theorem isLength_of_not_lt {x : Float} (h : ¬ x < zero) : (Scalar.float x).IsLength :=
  congrArg Except.ok (decide_eq_false h)

namespace Config.IsTested

variable {c : Config} (h : c.IsTested)

include h

theorem addProbe_eq : Edit.addProbe c.template.fields {} [] = .ok [c.template.probe] := by
  have hdistance := lengthOf_scalar "distance" (isLength_of_not_lt (not_lt_zero_of_not_le h.distance))
  have hbackoff :=
    lengthOf_scalar "backoff_distance" (isLength_of_not_lt (not_lt_zero_of_not_le h.backoff))
  have hunit : (Scalar.int c.template.direction).isUnit = true := by
    rcases h.direction with hd | hd <;> rw [hd] <;> decide
  simp [Edit.addProbe, ProbeFields.override, ProbeTemplate.fields, Edit.usualProbe, Probe.build, required,
    hdistance, hbackoff, directionOf, hunit, Axis.ofDatum_name, ProbeTemplate.probe, bind, Except.bind,
    pure, Except.pure]

theorem isSound_stored : c.template.stored.IsSound ↔
    c.template.distance.isNaN = false ∧ c.template.feedRate.isNaN = false ∧
      c.template.backoff.isNaN = false := by
  have hdistance := zero_le_iff_of_not_lt (not_lt_zero_of_not_le h.distance)
  have hfeedRate := zero_lt_iff_of_not_le h.feedRate
  have hbackoff := zero_le_iff_of_not_lt (not_lt_zero_of_not_le h.backoff)
  rw [← hdistance, ← hfeedRate, ← hbackoff]
  constructor
  · exact fun hs => ⟨hs.distance, hs.feedRate, hs.backoff⟩
  · exact fun ⟨distance, feedRate, backoff⟩ => {
      direction := h.direction
      distance := distance
      feedRate := feedRate
      backoff := backoff
      preMoves := fun m hm => nomatch hm
      postMoves := fun m hm => nomatch hm }

end Config.IsTested

/-! ### The document -/

namespace Document

open Validated

/-- The document of settings is accepted just when the number of pauses, the spindle speed and the
size of the tool are not below zero. -/
theorem settingsDatum_of_isPlain {s : Settings} (h : s.IsPlain) :
    ∃ d, settingsDatum s = .ok d ∧ ∀ r, settings d = valid r ↔
      ((∀ n : Int, s.dwells = .int n → 0 ≤ n) ∧ zero ≤ floatOf s.spindle ∧
        zero ≤ floatOf s.tool.size) ∧
        storedSettings s = r := by
  obtain ⟨x, hx⟩ := h.start .x
  obtain ⟨y, hy⟩ := h.start .y
  obtain ⟨z, hz⟩ := h.start .z
  obtain ⟨n, hn⟩ := h.dwells
  obtain ⟨spindle, hspindle⟩ := h.spindle
  obtain ⟨input, hinput, hcomputed⟩ := h.tool
  obtain ⟨size, hsize⟩ : ∃ size, s.tool.size = .float size := ⟨_, hcomputed⟩
  clear h hcomputed
  obtain ⟨⟨_, _, _⟩, _, _, units, ⟨_, unit, _⟩, operations⟩ := s
  cases hx; cases hy; cases hz; cases hn; cases hspindle; cases hinput; cases hsize
  refine ⟨_, rfl, fun r => ?_⟩
  have hfloat (u : Float) : floatOf (.float u) = u := rfl
  simp [settings, record, position, tool, Document.optional, seq_eq_valid, map_eq_valid, within_eq_valid,
    validatedMap_eq_valid, nonNegative_eq_valid, count_eq_valid, storedSettings, hfloat, and_assoc]

/-- The document of a new probe is accepted just when its numbers and those of the settings are. -/
theorem toSequence_of_isTested {c : Config} (h : c.IsTested) :
    ∃ d, ofSequence [c.template.probe] c.settings = .ok d ∧ ∀ source,
      (∃ s, toSequence source d = .ok s) ↔
        (zero ≤ floatOf c.settings.spindle ∧ zero ≤ floatOf c.settings.tool.size) ∧
          c.template.stored.IsSound := by
  obtain ⟨d, hd, hsettings⟩ := settingsDatum_of_isPlain h.plain
  have hprobes : [c.template.probe].mapM probeDatum = .ok [c.template.stored.datum] := by
    rw [List.mapM_cons, c.template.probeDatum_probe]
    rfl
  refine ⟨_, by rw [ofSequence, hd, hprobes]; rfl, fun source => ?_⟩
  have hlist : (∃ ps, list probe (.list [c.template.stored.datum]) = valid ps) ↔
      c.template.stored.IsSound := by
    have hwritten := list_written probe_datum [c.template.stored]
    rw [List.map_singleton] at hwritten
    simp [hwritten]
  rw [exists_toSequence_iff, hlist]
  simp [hsettings]
  exact fun _ _ _ => h.dwells

end Document

/-! ### Loading -/

namespace Config

/-- Whether the numbers of a configuration are in the ranges that are documented for them. -/
structure IsInRange (c : Config) : Prop where
  dwells : ∃ n : Int, c.settings.dwells = .int n ∧ 0 ≤ n
  spindle : zero ≤ floatOf c.settings.spindle
  distance : zero < c.template.distance
  feedRate : zero < c.template.feedRate
  backoff : zero < c.template.backoff

/-- Whether the floats whose ranges are tested are numbers. -/
structure HasNumbers (c : Config) : Prop where
  spindle : (floatOf c.settings.spindle).isNaN = false
  distance : c.template.distance.isNaN = false
  feedRate : c.template.feedRate.isNaN = false
  backoff : c.template.backoff.isNaN = false

variable {c : Config}

theorem IsTested.isInRange_iff (h : c.IsTested) : c.IsInRange ↔ c.HasNumbers := by
  have hspindle := zero_le_iff_of_not_lt h.spindle
  have hdistance := zero_lt_iff_of_not_le h.distance
  have hfeedRate := zero_lt_iff_of_not_le h.feedRate
  have hbackoff := zero_lt_iff_of_not_le h.backoff
  obtain ⟨n, hn⟩ := h.plain.dwells
  constructor
  · rintro ⟨-, spindle, distance, feedRate, backoff⟩
    exact ⟨hspindle.1 spindle, hdistance.1 distance, hfeedRate.1 feedRate, hbackoff.1 backoff⟩
  · rintro ⟨spindle, distance, feedRate, backoff⟩
    exact ⟨⟨n, hn, h.dwells n hn⟩, hspindle.2 spindle, hdistance.2 distance, hfeedRate.2 feedRate,
      hbackoff.2 backoff⟩

/-- With the template of a configuration that was loaded, or came with the program, a probe is
added, and with the settings it has a document.  The numbers are in their ranges just when those
that are tested are numbers, and the document is accepted just when, besides, the size that is read
of the tool's text is not below zero. -/
theorem usable_load_iff {t : FileTree} {a : Address} (h : c = packaged ∨ load t a = .ok c) :
    (c.IsInRange ↔ c.HasNumbers) ∧
      ∃ text, c.settings.tool.input = .text text ∧
        ∃ p d, Edit.addProbe c.template.fields {} [] = .ok [p] ∧
          Document.ofSequence [p] c.settings = .ok d ∧
          ∀ source, (∃ s, Document.toSequence source d = .ok s) ↔
            c.HasNumbers ∧ zero ≤ ToolSize.parse text c.settings.tool.unit.name := by
  have htested : c.IsTested := h.elim (fun hpackaged => hpackaged ▸ isTested_packaged) isTested_of_load
  obtain ⟨text, htext, hsize⟩ := htested.plain.tool
  obtain ⟨d, hd, haccepted⟩ := Document.toSequence_of_isTested htested
  refine ⟨htested.isInRange_iff, text, htext, c.template.probe, d, htested.addProbe_eq, hd,
    fun source => ?_⟩
  have hcomputed : floatOf c.settings.tool.size = ToolSize.parse text c.settings.tool.unit.name := by
    rw [hsize]
    rfl
  rw [haccepted, htested.isSound_stored, hcomputed, zero_le_iff_of_not_lt htested.spindle]
  constructor
  · rintro ⟨⟨spindle, tool⟩, distance, feedRate, backoff⟩
    exact ⟨⟨spindle, distance, feedRate, backoff⟩, tool⟩
  · rintro ⟨⟨spindle, distance, feedRate, backoff⟩, tool⟩
    exact ⟨⟨spindle, tool⟩, distance, feedRate, backoff⟩

theorem exists_of_any {ε α : Type} {x : Except ε α} {test : α → Bool}
    (h : x.toOption.any test = true) : ∃ a, x = .ok a ∧ test a = true := by
  cases x with
  | ok a => exact ⟨a, rfl, h⟩
  | error e => cases h

/-- Of a configuration of whole numbers there is a probe with a document that is accepted. -/
theorem usable_load_wholeConfig :
    ∃ c, load (fileOf wholeConfig) only = .ok c ∧ c.IsInRange ∧
      ∃ p d, Edit.addProbe c.template.fields {} [] = .ok [p] ∧
        Document.ofSequence [p] c.settings = .ok d ∧
        ∀ source, ∃ s, Document.toSequence source d = .ok s := by
  have hloads : (load (fileOf wholeConfig) only).toOption.any (fun c =>
      [floatOf c.settings.spindle, c.template.distance, c.template.feedRate,
        c.template.backoff].all (·.isNaN == false) &&
      decide (zero ≤ ToolSize.parse c.settings.tool.input.plain c.settings.tool.unit.name)) = true := by
    decide +kernel
  obtain ⟨c, hload, htested⟩ := exists_of_any hloads
  obtain ⟨hrange, text, htext, p, d, hp, hd, haccepted⟩ := usable_load_iff (.inr hload)
  simp only [List.all_cons, List.all_nil, Bool.and_true, Bool.and_eq_true, beq_iff_eq,
    decide_eq_true_eq, htext] at htested
  obtain ⟨⟨spindle, distance, feedRate, backoff⟩, hsize⟩ := htested
  have hnumbers : c.HasNumbers := ⟨spindle, distance, feedRate, backoff⟩
  exact ⟨c, hload, hrange.2 hnumbers, p, d, hp, hd, fun source => (haccepted source).2 ⟨hnumbers, hsize⟩⟩

def numberlessConfig : String :=
  "\x7bsettings: \x7binitial_position: \x7bx: 0, y: 0, z: 0\x7d, " ++
  "dwells_before_probe: 15, spindle_speed: 1\x7d, probe_template: " ++
  "\x7baxis: Z, direction: -1, distance: .nan, feed_rate: 1, backoff_distance: 1\x7d\x7d"

/-- The configuration is loaded though its distance is out of range, and the document of a probe
with its template is refused. -/
theorem not_usable_load_numberlessConfig :
    ∃ c, load (fileOf numberlessConfig) only = .ok c ∧ ¬ c.IsInRange ∧
      ∃ p d, Edit.addProbe c.template.fields {} [] = .ok [p] ∧
        Document.ofSequence [p] c.settings = .ok d ∧
        ∀ source s, Document.toSequence source d ≠ .ok s := by
  have hloads : (load (fileOf numberlessConfig) only).toOption.any (·.template.distance.isNaN) = true := by
    decide +kernel
  obtain ⟨c, hload, hnan⟩ := exists_of_any hloads
  have htested := isTested_of_load hload
  obtain ⟨d, hd, haccepted⟩ := Document.toSequence_of_isTested htested
  refine ⟨c, hload, fun h => ?_, c.template.probe, d, htested.addProbe_eq, hd, fun source s hs => ?_⟩
  · have hnumber := (htested.isInRange_iff.1 h).distance
    exact Bool.noConfusion (hnan.symm.trans hnumber)
  · have hnumber := (htested.isSound_stored.1 ((haccepted source).1 ⟨s, hs⟩).2).1
    exact Bool.noConfusion (hnan.symm.trans hnumber)

end Config

end TouchProbe
