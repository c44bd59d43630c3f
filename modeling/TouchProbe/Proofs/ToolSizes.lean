import TouchProbe.Proofs.FloatSigns
import TouchProbe.Proofs.UsableDefaults

/-!
Which sizes a tool can be given.  What is typed is unreadable, a number, or a quotient of two
floats, and a size is computed of each.  A document takes a size that is a number and not below
zero, so what is typed is settled by its signs: the conversion to millimetres makes no difference,
since it scales by more than one.
-/

namespace TouchProbe

open Number

namespace Number

theorem zero_le_zero : zero ≤ zero := (zero_le_iff parts_zero).2 (.inl rfl)

theorem zero_le_iff_not_lt {x : Float} : zero ≤ x ↔ x.isNaN = false ∧ ¬ x < zero :=
  ⟨fun h => ⟨isNaN_of_zero_le h, not_lt_zero_of_le h⟩, fun ⟨hnan, h⟩ => (zero_le_iff_of_not_lt h).2 hnan⟩

end Number

namespace ToolSize

/-! ### What is typed -/

inductive Typed where
  | unreadable
  | number (n : Numeral)
  | quotient (a b : Float)

/-- What a text says in a unit: a number at its front, or what stands around its first slash. -/
def typed (unit : ToolUnit) (text : String) : Typed :=
  match unit with
  | .mm | .inch =>
    match scientific? (Text.trimStart text.toList) with
    | some (n, _) => .number n
    | none => .unreadable
  | .fraction =>
    match Text.splitOn '/' text.toList with
    | above :: below :: _ =>
      match strict? above, strict? below with
      | some a, some b => .quotient a b
      | _, _ => .unreadable
    | _ => .unreadable

namespace Typed

def millimetres (unit : ToolUnit) : Typed → Float
  | unreadable => zero
  | number n => if unit = .mm then n.toFloat else n.toFloat * inch
  | quotient a b => if isZero b then zero else a / b * inch

/-- Whether what is typed is a size.  A number must not be below zero.  The sides of a quotient must
be numbers and not both be infinite, and they must have the same sign unless the quotient is a
zero. -/
def IsSize : Typed → Prop
  | unreadable => True
  | number n => n.negative = false ∨ isZero n.toFloat = true
  | quotient a b => isZero b = true ∨
      (a.isNaN = false ∧ b.isNaN = false ∧ ¬ (a.isInf = true ∧ b.isInf = true)) ∧
        (SameSign a b ∨ isZero (a / b) = true)

end Typed

theorem parse_eq (unit : ToolUnit) (text : String) :
    parse text unit.name = (typed unit text).millimetres unit := by
  have hunit : ToolUnit.ofName? unit.name = some unit := unit.find?_name
  rw [parse, hunit, typed.eq_def]
  cases unit with
  | mm =>
      simp only [leading]
      cases scientific? (Text.trimStart text.toList) <;> rfl
  | inch =>
      simp only [leading]
      cases scientific? (Text.trimStart text.toList) with
      | none => exact parts_injective (by decide +kernel)
      | some n => rfl
  | fraction =>
      rcases Text.splitOn '/' text.toList with _ | ⟨above, _ | ⟨below, rest⟩⟩
      · rfl
      · rfl
      · dsimp only
        cases strict? above <;> cases strict? below <;> rfl

/-! ### Sizes -/

theorem parts_inch : parts inch = .finite false 7149464408450662 (-48) := by
  decide +kernel

/-- Inches become millimetres without a change of sign. -/
theorem usable_inches_iff (x : Float) :
    ((x * inch).isNaN = false ∧ ¬ x * inch < zero) ↔ (x.isNaN = false ∧ ¬ x < zero) := by
  rw [isNaN_scaled parts_inch (by decide) (by decide),
    scaled_lt_zero_iff parts_inch (by decide) (by decide)]

theorem usable_number_iff (n : Numeral) : (n.toFloat.isNaN = false ∧ ¬ n.toFloat < zero) ↔
    n.negative = false ∨ isZero n.toFloat = true := by
  have hnan : n.toFloat.isNaN = false := isNaN_nearestDecimal _ _ _
  have hsign : HasSign n.negative n.toFloat := parts_nearestDecimal _ _ _
  rw [lt_zero_iff_of_hasSign hsign, not_and_or, Bool.not_eq_true, Bool.not_eq_false, and_iff_right hnan]

/-- A quotient by a float that is no zero. -/
theorem usable_quotient_iff {a b : Float} (hb : isZero b = false) :
    ((a / b).isNaN = false ∧ ¬ a / b < zero) ↔
      (a.isNaN = false ∧ b.isNaN = false ∧ ¬ (a.isInf = true ∧ b.isInf = true)) ∧
        (SameSign a b ∨ isZero (a / b) = true) := by
  rw [isNaN_div hb]
  refine and_congr_right fun ⟨ha, hb', hinf⟩ => ?_
  obtain ⟨negative, ha⟩ := isNaN_eq_false_iff_hasSign.1 ha
  obtain ⟨other, hb'⟩ := isNaN_eq_false_iff_hasSign.1 hb'
  rw [lt_zero_iff_of_hasSign (hasSign_div ha hb' hb hinf), sameSign_iff ha hb', bne_iff_ne, not_and_or,
    not_not, Bool.not_eq_false]

namespace Typed

/-- The size of what is typed can be used just when it is a size. -/
theorem usable_millimetres_iff (unit : ToolUnit) (t : Typed) :
    ((t.millimetres unit).isNaN = false ∧ ¬ t.millimetres unit < zero) ↔ t.IsSize := by
  cases t with
  | unreadable => exact iff_of_true (zero_le_iff_not_lt.1 zero_le_zero) trivial
  | number n =>
      rw [millimetres, IsSize, ← usable_number_iff]
      split
      · rfl
      · exact usable_inches_iff _
  | quotient a b =>
      rw [millimetres, IsSize]
      split
      · next hb => exact iff_of_true (zero_le_iff_not_lt.1 zero_le_zero) (.inl hb)
      · next hb =>
        rw [usable_inches_iff, usable_quotient_iff (Bool.eq_false_of_not_eq_true hb), or_iff_right hb]

end Typed

end ToolSize

/-! ### Documents with another tool -/

namespace Document

open Validated

/-- Settings are accepted just when each of their fields is. -/
theorem exists_settings_iff (start dwells spindle units tool' : Datum) :
    (∃ r, settings (.record [("initial_position", start), ("dwells_before_probe", dwells),
        ("spindle_speed", spindle), ("units", units), ("endmill_size", tool')]) = valid r) ↔
      ((∃ p, position start = valid p) ∧ (∃ n, count dwells = valid n) ∧
        (∃ x, nonNegative spindle = valid x) ∧ ∃ u, oneOf Units.all Units.name units = valid u) ∧
      ∃ t, tool tool' = valid t := by
  simp [settings, record, Document.optional, seq_eq_valid, map_eq_valid, within_eq_valid,
    validatedMap_eq_valid, and_assoc]

/-- A tool with a text and a unit is accepted just when its size is not below zero. -/
theorem exists_tool_iff (text : String) (unit : ToolUnit) (x : Float) :
    (∃ t, tool (.record [("input", .text text), ("unit", .text unit.name),
      ("size_in_mm", .float x)]) = valid t) ↔ zero ≤ x := by
  simp [tool, record, Document.optional, seq_eq_valid, map_eq_valid, within_eq_valid,
    validatedMap_eq_valid, nonNegative_eq_valid]

theorem settings_withTool {s : Settings} {d : Datum} (hd : settingsDatum s = .ok d)
    (hr : ∃ r, settings d = valid r) (text : String) (unit : ToolUnit) (x : Float) :
    ∃ e, settingsDatum { s with tool := ⟨.text text, unit, .float x⟩ } = .ok e ∧
      ((∃ r, settings e = valid r) ↔ zero ≤ x) := by
  obtain ⟨a, ha, hd⟩ := bind_eq_ok.1 hd
  obtain ⟨b, hb, hd⟩ := bind_eq_ok.1 hd
  obtain ⟨c, hc, hd⟩ := bind_eq_ok.1 hd
  obtain ⟨n, hn, hd⟩ := bind_eq_ok.1 hd
  obtain ⟨size, -, hd⟩ := bind_eq_ok.1 hd
  obtain rfl := Except.ok.inj hd
  have hsize : floatDatum (.float x) = .ok (.float x) := rfl
  refine ⟨_, by rw [settingsDatum, ha, hb, hc, hn, hsize]; rfl, ?_⟩
  rw [exists_settings_iff] at hr ⊢
  rw [exists_tool_iff, and_iff_right hr.1]

/-- With another tool a document that was accepted is accepted just when the size is not below
zero. -/
theorem toSequence_withTool {ops : List Probe} {s r : Settings} {source : String} {d : Datum}
    (hd : ofSequence ops s = .ok d) (hr : toSequence source d = .ok r) (text : String) (unit : ToolUnit)
    (x : Float) :
    ∃ e, ofSequence ops { s with tool := ⟨.text text, unit, .float x⟩ } = .ok e ∧
      ∀ source, (∃ r, toSequence source e = .ok r) ↔ zero ≤ x := by
  obtain ⟨kept, hkept, hd⟩ := bind_eq_ok.1 hd
  obtain ⟨probes, hprobes, hd⟩ := bind_eq_ok.1 hd
  obtain rfl := Except.ok.inj hd
  obtain ⟨hsettings, hlist⟩ := exists_toSequence_iff.1 ⟨r, hr⟩
  obtain ⟨e, he, haccepted⟩ := settings_withTool hkept hsettings text unit x
  refine ⟨_, by rw [ofSequence, he, hprobes]; rfl, fun source => ?_⟩
  rw [exists_toSequence_iff, and_iff_left hlist, haccepted]

end Document

namespace ToolSize

theorem updateTool_eq {input unit' : Option Datum} {s : Settings} {text : String} {unit : ToolUnit}
    (htext : input.getD s.tool.input = .text text)
    (hunit : unit'.getD (.text s.tool.unit.name) = .text unit.name) :
    Edit.updateTool input unit' s =
      .ok { s with tool := ⟨.text text, unit, .float (parse text unit.name)⟩ } := by
  have hsize : ofDatum (.text text) (.text unit.name) = .ok (parse text unit.name) := rfl
  rw [Edit.updateTool, htext, hunit]
  simp [hsize, Tool.build, ToolUnit.ofDatum_name, bind, Except.bind, pure, Except.pure]

/-- Every text has a size in every unit, and it is zero if the text is unreadable or divides by
zero.  It is a number and not below zero just when the text is that of a size.  Typed for a sequence
whose document is accepted, it gives a sequence with a document, and this is accepted just when the
text is that of a size. -/
theorem isUsable_iff (unit : ToolUnit) (text : String) :
    ∃ x, ofDatum (.text text) (.text unit.name) = .ok x ∧
      (typed unit text = .unreadable → x = zero) ∧
      (∀ a b, typed unit text = .quotient a b → isZero b = true → x = zero) ∧
      ((x.isNaN = false ∧ ¬ x < zero) ↔ (typed unit text).IsSize) ∧
      ∀ ops s source d r, Document.ofSequence ops s = .ok d → Document.toSequence source d = .ok r →
        ∀ input unit', input.getD s.tool.input = .text text →
          unit'.getD (.text s.tool.unit.name) = .text unit.name →
          ∃ s' e, Edit.updateTool input unit' s = .ok s' ∧
            s' = { s with tool := ⟨.text text, unit, .float x⟩ } ∧
            Document.ofSequence ops s' = .ok e ∧
            ∀ source, (∃ r, Document.toSequence source e = .ok r) ↔ (typed unit text).IsSize := by
  have hsize := Typed.usable_millimetres_iff unit (typed unit text)
  rw [← parse_eq] at hsize
  refine ⟨parse text unit.name, rfl, fun h => ?_, fun a b h hb => ?_, hsize, ?_⟩
  · rw [parse_eq, h, Typed.millimetres]
  · rw [parse_eq, h, Typed.millimetres, if_pos hb]
  · intro ops s source d r hd hr input unit' htext hunit
    obtain ⟨e, he, haccepted⟩ := Document.toSequence_withTool hd hr text unit (parse text unit.name)
    refine ⟨_, e, updateTool_eq htext hunit, rfl, he, fun source => ?_⟩
    rw [haccepted, zero_le_iff_not_lt, hsize]

/-- Three eighths of an inch, written with blanks, an underscore and a power of ten. -/
theorem isUsable_threeEighths :
    ∃ x, ofDatum (.text "1_2 / 3.2e1") (.text "fraction") = .ok x ∧ x.isNaN = false ∧ ¬ x < zero ∧
      ∃ s e, Edit.updateTool (some (.text "1_2 / 3.2e1")) none Settings.default = .ok s ∧
        s.tool.size = .float x ∧ Document.ofSequence [] s = .ok e ∧
        ∀ source, ∃ r, Document.toSequence source e = .ok r := by
  obtain ⟨d, hd, hback⟩ :=
    Document.toSequence_ofSequence (List.forall_mem_nil Probe.IsStorable) Settings.isStorable_default
  obtain ⟨x, hx, -, -, hsize, husable⟩ := isUsable_iff .fraction "1_2 / 3.2e1"
  have hparse : (parse "1_2 / 3.2e1" "fraction").isNaN = false ∧ ¬ parse "1_2 / 3.2e1" "fraction" < zero := by
    decide +kernel
  have hopened := (hback "" _).2 ⟨by simp, rfl⟩
  obtain ⟨s, e, hs, htool, he, haccepted⟩ := husable [] Settings.default "" d _ hd hopened
    (some (.text "1_2 / 3.2e1")) none rfl rfl
  obtain rfl := Except.ok.inj hx
  exact ⟨_, rfl, hparse.1, hparse.2, s, e, hs, congrArg (·.tool.size) htool, he,
    fun source => (haccepted source).2 (hsize.1 hparse)⟩

/-- A minus sign is read, and so is the name for what is no number; the document of either size is
refused. -/
theorem not_isUsable_minus_nan :
    (∃ x, ofDatum (.text "-3") (.text "mm") = .ok x ∧ x < zero) ∧
      ∃ x, ofDatum (.text "nan/1") (.text "fraction") = .ok x ∧ x.isNaN = true ∧
        ∃ s e, Edit.updateTool (some (.text "nan/1")) none Settings.default = .ok s ∧
          Document.ofSequence [] s = .ok e ∧
          ∀ source, Document.toSequence source e = .error (.invalidSequence source
            [⟨[.field "settings", .field "endmill_size", .field "size_in_mm"], .negative⟩]) := by
  refine ⟨⟨_, rfl, by decide +kernel⟩, _, rfl, by decide +kernel, _, _, rfl, rfl, fun source => ?_⟩
  exact Document.toSequence_eq_error (by decide +kernel)

end ToolSize

end TouchProbe
