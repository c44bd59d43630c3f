import TouchProbe.Defaults
import TouchProbe.Proofs.Written

/-!
The ranges of a configuration.  Its values are tested one after the other, and the first one that is
out of range is told with the value.  The number of pauses and the direction are whole numbers of any
length, so their fault may be that they are too long to be shown.
-/

namespace TouchProbe

open Number

namespace Defaults

/-- The settings of a configuration are made of floats, a whole number and a tool whose size its text
has. -/
theorem settingsOf_eq_ok {d : Datum} {s : Settings} (h : settingsOf d = .ok s) :
    ∃ x y z n spindle input unit, s.start = ⟨.float x, .float y, .float z⟩ ∧ s.dwells = .int n ∧
      s.spindle = .float spindle ∧
      Tool.build (some (.text input)) (some (.text unit))
        (some (.float (ToolSize.parse input unit))) = .ok s.tool := by
  obtain ⟨_, -, h⟩ := bind_eq_ok.1 h
  obtain ⟨_, -, h⟩ := bind_eq_ok.1 h
  obtain ⟨⟨input, unit⟩, -, h⟩ := bind_eq_ok.1 h
  obtain ⟨_, -, h⟩ := bind_eq_ok.1 h
  obtain ⟨x, -, h⟩ := bind_eq_ok.1 h
  obtain ⟨_, -, h⟩ := bind_eq_ok.1 h
  obtain ⟨y, -, h⟩ := bind_eq_ok.1 h
  obtain ⟨_, -, h⟩ := bind_eq_ok.1 h
  obtain ⟨z, -, h⟩ := bind_eq_ok.1 h
  obtain ⟨_, -, h⟩ := bind_eq_ok.1 h
  obtain ⟨n, -, h⟩ := bind_eq_ok.1 h
  obtain ⟨_, -, h⟩ := bind_eq_ok.1 h
  obtain ⟨spindle, -, h⟩ := bind_eq_ok.1 h
  obtain ⟨_, -, h⟩ := bind_eq_ok.1 h
  obtain ⟨_, -, h⟩ := bind_eq_ok.1 h
  obtain ⟨tool, htool, h⟩ := bind_eq_ok.1 h
  obtain ⟨_, -, h⟩ := bind_eq_ok.1 h
  obtain rfl := Except.ok.inj h
  exact ⟨x, y, z, n, spindle, input, unit, rfl, rfl, rfl, htool⟩

theorem exists_of_values {d : Datum} {c : Defaults} (h : values d = .ok c) :
    ∃ e, settingsOf e = .ok c.settings := by
  obtain ⟨e, -, h⟩ := bind_eq_ok.1 h
  obtain ⟨settings, hsettings, h⟩ := bind_eq_ok.1 h
  -- What follows is the template.
  iterate 13 obtain ⟨_, -, h⟩ := bind_eq_ok.1 h
  obtain rfl := Except.ok.inj h
  exact ⟨e, hsettings⟩

/-- Whether the number of pauses is a whole number, and the spindle speed a float. -/
def HasKinds (s : Settings) : Prop := ∃ n x, s.dwells = .int n ∧ s.spindle = .float x

theorem hasKinds_of_values {d : Datum} {c : Defaults} (h : values d = .ok c) :
    HasKinds c.settings := by
  obtain ⟨_, hsettings⟩ := exists_of_values h
  obtain ⟨-, -, -, n, x, -, -, -, hn, hx, -⟩ := settingsOf_eq_ok hsettings
  exact ⟨n, x, hn, hx⟩

/-- Whether the direction is out of range and has too many digits to be shown, and what is tested
between the number of pauses and the direction passes. -/
def HasLongDirection (c : Defaults) (x : Float) : Prop :=
  ¬ x < zero ∧ c.axisName ∈ Axis.all.map Axis.name ∧ (Scalar.int c.direction).isTooLong = true

/-- Whether the first value that is out of range has too many digits to be shown. -/
def IsTooLong (c : Defaults) : Prop :=
  ∃ n x, c.settings.dwells = .int n ∧ c.settings.spindle = .float x ∧
    (n < 0 ∧ (Scalar.int n).isTooLong = true ∨ 0 ≤ n ∧ c.HasLongDirection x)

theorem isTooLong_of_natAbs_le {n : Int} (h : n.natAbs ≤ 1) : (Scalar.int n).isTooLong = false := by
  have hlimit : Scalar.digitLimit ≠ 0 := by decide
  simp only [Scalar.isTooLong, decide_eq_false_iff_not, not_le]
  exact h.trans_lt (Nat.one_lt_pow hlimit (by decide))

theorem refuse_eq (d : Datum) (fault : String → Fault) :
    refuse d fault = .error (if d.isTooLongIn [] then .tooLongToWrite else fault d.plain) := by
  rw [refuse, Datum.write]
  split <;> rfl

theorem refuse_int (n : Int) (fault : String → Fault) :
    refuse (.int n) fault =
      .error (if (Scalar.int n).isTooLong then .tooLongToWrite else fault (Scalar.int n).plain) := by
  have hlong : (Datum.int n).isTooLongIn [] = (Scalar.int n).isTooLong := by rw [Datum.isTooLongIn]
  rw [refuse_eq, hlong, Datum.plain]

/-- The first value that is out of range is the number of pauses. -/
theorem check_of_negative {c : Defaults} {n : Int} (hn : c.settings.dwells = .int n) (hlt : n < 0) :
    c.check = .error (if (Scalar.int n).isTooLong then .tooLongToWrite else
      .configOutOfRange (.negative "dwells_before_probe" (Scalar.int n).plain)) := by
  have hdwells : c.checkDwells = refuse (.int n) (.negative "dwells_before_probe") := by
    have hnegative : (Datum.int n).isNegative = .ok true := congrArg Except.ok (decide_eq_true hlt)
    rw [checkDwells, hn, hnegative]
    simp only [bind, Except.bind, if_true]
  rw [check, hdwells, refuse_int]
  split <;> rfl

theorem check_of_nonneg {c : Defaults} {n : Int} (hn : c.settings.dwells = .int n) (hle : 0 ≤ n) :
    c.check = c.checkOthers.mapError rangeFault := by
  have hdwells : c.checkDwells = .ok () := by
    have hnegative : (Datum.int n).isNegative = .ok false :=
      congrArg Except.ok (decide_eq_false (not_lt.2 hle))
    rw [checkDwells, hn, hnegative]
    rfl
  rw [check, hdwells]
  rfl

/-- Whether a test passes or fails with a fault that is told as out of range. -/
def Tells {α : Type} (r : Except Fault α) : Prop := ∀ f, r = .error f → f ≠ .tooLongToWrite

theorem tells_ok {α : Type} (a : α) : Tells (.ok a) := fun _ h => nomatch h

theorem tells_error {α : Type} {f : Fault} (h : f ≠ .tooLongToWrite) :
    Tells (Except.error f : Except Fault α) := by
  rintro g hg
  cases hg
  exact h

theorem Tells.bind {α β : Type} {x : Except Fault α} {f : α → Except Fault β} (hx : Tells x)
    (hf : ∀ a, Tells (f a)) : Tells (x >>= f) := by
  cases x with
  | ok a => exact hf a
  | error g => exact tells_error (hx g rfl)

theorem tells_checkLength (name : String) (x : Float) : Tells (checkLength name x) := by
  rw [checkLength]
  split
  · exact tells_error Fault.noConfusion
  · exact tells_ok ()

section Others

variable {c : Defaults} {x : Float}

/-- After the number of pauses the first value that is out of range is the spindle speed. -/
theorem checkOthers_of_negative (hx : c.settings.spindle = .float x) (hlt : x < zero) :
    c.checkOthers = .error (.negative "spindle_speed" (Scalar.float x).plain) := by
  have hspindle : (Datum.float x).isNegative = .ok true := congrArg Except.ok (decide_eq_true hlt)
  rw [checkOthers, hx, hspindle]
  rfl

theorem isNegative_float (hle : ¬ x < zero) : (Datum.float x).isNegative = .ok false :=
  congrArg Except.ok (decide_eq_false hle)

theorem checkOthers_of_no_axis (hx : c.settings.spindle = .float x) (hle : ¬ x < zero)
    (hname : Axis.ofName? c.axisName = none) :
    c.checkOthers = .error
      (.notOneOf "probe_template.axis" (Axis.all.map Axis.name) (Text.quote c.axisName)) := by
  rw [checkOthers, hx, isNegative_float hle, hname]
  rfl

/-- A direction that is no unit is shown in the fault, where it is not too long for that. -/
theorem checkOthers_of_bad_direction (hx : c.settings.spindle = .float x) (hle : ¬ x < zero)
    {a : Axis} (hname : Axis.ofName? c.axisName = some a)
    (hdirection : ¬ (c.direction = 1 ∨ c.direction = -1)) :
    c.checkOthers = .error (if (Scalar.int c.direction).isTooLong then .tooLongToWrite else
      .badDirection "probe_template.direction" (Scalar.int c.direction).plain) := by
  have hbad : (c.direction != 1 && c.direction != -1) = true := by
    rw [Bool.and_eq_true, bne_iff_ne, bne_iff_ne]
    exact not_or.1 hdirection
  rw [checkOthers, hx, isNegative_float hle, hname]
  simp only [hbad, refuse_int, if_true]
  rfl

theorem checkOthers_of_unit (hx : c.settings.spindle = .float x) (hle : ¬ x < zero)
    {a : Axis} (hname : Axis.ofName? c.axisName = some a)
    (hdirection : c.direction = 1 ∨ c.direction = -1) :
    c.checkOthers = do
      checkLength "distance" c.distance
      checkLength "feed_rate" c.feedRate
      checkLength "backoff_distance" c.backoff
      return {
        settings := c.settings
        template := ⟨a, c.direction, c.distance, c.feedRate, c.backoff, c.offset⟩ } := by
  have hunit : (c.direction != 1 && c.direction != -1) = false := by
    rcases hdirection with h | h <;> rw [h] <;> rfl
  rw [checkOthers, hx, isNegative_float hle, hname]
  simp only [hunit]
  rfl

theorem mem_axis_names_iff {s : String} :
    s ∈ Axis.all.map Axis.name ↔ ∃ a, Axis.ofName? s = some a := by
  constructor
  · intro h
    obtain ⟨a, -, rfl⟩ := List.mem_map.1 h
    exact ⟨a, Axis.ofName?_name a⟩
  · rintro ⟨a, ha⟩
    have hfound := List.find?_some ha
    exact List.mem_map.2 ⟨a, a.mem_all, beq_iff_eq.1 hfound⟩

/-- What is tested after the number of pauses. -/
theorem checkOthers_cases (hx : c.settings.spindle = .float x) :
    c.HasLongDirection x ∧ c.checkOthers = .error .tooLongToWrite ∨
      ¬ c.HasLongDirection x ∧ Tells c.checkOthers := by
  by_cases hlt : x < zero
  · refine .inr ⟨fun h => h.1 hlt, ?_⟩
    rw [checkOthers_of_negative hx hlt]
    exact tells_error Fault.noConfusion
  cases hname : Axis.ofName? c.axisName with
  | none =>
      refine .inr ⟨fun h => ?_, ?_⟩
      · obtain ⟨a, ha⟩ := mem_axis_names_iff.1 h.2.1
        rw [hname] at ha
        cases ha
      · rw [checkOthers_of_no_axis hx hlt hname]
        exact tells_error Fault.noConfusion
  | some a =>
      by_cases hdirection : c.direction = 1 ∨ c.direction = -1
      · have hshort : (Scalar.int c.direction).isTooLong = false := by
          apply isTooLong_of_natAbs_le
          rcases hdirection with h | h <;> rw [h] <;> decide
        refine .inr ⟨fun h => Bool.noConfusion (hshort.symm.trans h.2.2), ?_⟩
        rw [checkOthers_of_unit hx hlt hname hdirection]
        exact (tells_checkLength _ _).bind fun _ => (tells_checkLength _ _).bind fun _ =>
          (tells_checkLength _ _).bind fun _ => tells_ok _
      · rw [checkOthers_of_bad_direction hx hlt hname hdirection]
        cases hlong : (Scalar.int c.direction).isTooLong with
        | true => exact .inl ⟨⟨hlt, mem_axis_names_iff.2 ⟨a, hname⟩, hlong⟩, rfl⟩
        | false =>
            refine .inr ⟨fun h => Bool.noConfusion (hlong.symm.trans h.2.2), ?_⟩
            exact tells_error Fault.noConfusion

end Others

theorem isTooLong_iff {c : Defaults} {n : Int} {x : Float} (hn : c.settings.dwells = .int n)
    (hx : c.settings.spindle = .float x) :
    c.IsTooLong ↔ n < 0 ∧ (Scalar.int n).isTooLong = true ∨ 0 ≤ n ∧ c.HasLongDirection x := by
  constructor
  · rintro ⟨k, y, hk, hy, h⟩
    obtain rfl : n = k := by simpa using hn.symm.trans hk
    obtain rfl : x = y := by simpa using hx.symm.trans hy
    exact h
  · exact fun h => ⟨n, x, hn, hx, h⟩

/-- Every fault of a test that is told as out of range is one of the configuration. -/
theorem Tells.family {α : Type} {r : Except Fault α} (h : Tells r) {f : Fault}
    (hf : r.mapError rangeFault = .error f) : f.family = .badConfig := by
  cases r with
  | ok a => cases hf
  | error g =>
      have hg := h g rfl
      rw [← Except.error.inj hf]
      cases g <;> first | rfl | exact absurd rfl hg

/-- The tests pass, or fail with a fault of the configuration, unless the first value that is out of
range is too long to be shown. -/
theorem check_cases {c : Defaults} (h : HasKinds c.settings) :
    c.IsTooLong ∧ c.check = .error .tooLongToWrite ∨
      ¬ c.IsTooLong ∧ ∀ f, c.check = .error f → f.family = .badConfig := by
  obtain ⟨n, x, hn, hx⟩ := h
  rw [isTooLong_iff hn hx]
  rcases lt_or_ge n 0 with hlt | hle
  · have hrest : ¬ 0 ≤ n := not_le.2 hlt
    rw [check_of_negative hn hlt]
    cases (Scalar.int n).isTooLong with
    | true => exact .inl ⟨.inl ⟨hlt, rfl⟩, rfl⟩
    | false =>
        refine .inr ⟨by simp [hrest], fun f hf => ?_⟩
        rw [← Except.error.inj hf]
        rfl
  · have hrest : ¬ n < 0 := not_lt.2 hle
    rw [check_of_nonneg hn hle]
    rcases checkOthers_cases hx with ⟨hlong, hfault⟩ | ⟨hshort, htells⟩
    · rw [hfault]
      exact .inl ⟨.inr ⟨hle, hlong⟩, rfl⟩
    · refine .inr ⟨?_, fun f => htells.family⟩
      rintro (⟨hlt, -⟩ | ⟨-, hlong⟩)
      · exact hrest hlt
      · exact hshort hlong

end Defaults

end TouchProbe
