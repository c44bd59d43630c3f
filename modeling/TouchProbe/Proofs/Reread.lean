import TouchProbe.Proofs.Commands
import TouchProbe.Sequence.Settings

/-!
The operations that programs show in full, and what is read from a program in their place: their
numbers as floats, a zero without its sign, the travel and the retreat as lengths, and an approach
of length zero forward.
-/

namespace TouchProbe.Program

open Text Number

/-- The float of a value; zero for a value that has none. -/
def floatOf (d : Datum) : Float :=
  match d.toFloat with
  | .ok x => x
  | .error _ => zero

/-- Whether a value is a number that is written without a power of ten. -/
structure IsPlainNumber (d : Datum) : Prop where
  number : d.toNumber.isOk = true
  hasFloat : d.toFloat.isOk = true
  plain : isPlain (floatOf d) = true

instance (d : Datum) : Decidable (IsPlainNumber d) :=
  decidable_of_iff
    (d.toNumber.isOk = true ∧ d.toFloat.isOk = true ∧ isPlain (floatOf d) = true)
    ⟨fun h => ⟨h.1, h.2.1, h.2.2⟩, fun h => ⟨h.1, h.2, h.3⟩⟩

theorem IsPlainNumber.float {d : Datum} (h : IsPlainNumber d) : d.toFloat = .ok (floatOf d) := by
  have hfloat := h.hasFloat
  rw [floatOf]
  cases hd : d.toFloat with
  | ok x => rfl
  | error fault =>
      rw [hd] at hfloat
      cases hfloat

/-- Whether a value is a text that comes back from a comment. -/
def IsDescription (d : Datum) : Prop :=
  ∃ s : String, d = .text s ∧ s.toList ≠ [] ∧ trim s.toList = s.toList ∧ '\n' ∉ s.toList

/-- Whether a step is shown in full by its line. -/
def IsPlainStep : Step → Prop
  | .rapid r =>
    IsDescription r.description ∧
      ∃ vs, r.axes = .values vs ∧ vs.isEmpty = false ∧ ∀ e ∈ vs.entries, IsPlainNumber e.2
  | .dwell d =>
    IsDescription d.description ∧ IsPlainNumber (.scalar d.time) ∧
      zero < floatOf (.scalar d.time) ∧ (floatOf (.scalar d.time) == clearingPause) = false

structure IsPlainProbe (p : Probe) : Prop where
  distance : IsPlainNumber (.scalar p.distance)
  distance_nonneg : zero ≤ floatOf (.scalar p.distance)
  feedRate : IsPlainNumber p.feedRate
  feedRate_pos : zero < floatOf p.feedRate
  backoff : IsPlainNumber (.scalar p.backoff)
  backoff_nonneg : zero ≤ floatOf (.scalar p.backoff)
  offset : IsPlainNumber p.offset
  preMoves : ∀ s ∈ p.preMoves, IsPlainStep s
  postMoves : ∀ s ∈ p.postMoves, IsPlainStep s

def rereadNumber (d : Datum) : Datum := .float (settled (floatOf d))

def rereadAxes : RapidAxes → RapidAxes
  | .values vs => .values (vs.map rereadNumber)
  | axes => axes

def rereadStep : Step → Step
  | .rapid r => .rapid { r with axes := rereadAxes r.axes, id := .made }
  | .dwell d => .dwell { d with time := .float (settled (floatOf (.scalar d.time))), id := .made }

/-- Whether the probe line of an operation is read as an approach to larger coordinates. -/
def readsForward (p : Probe) : Bool := p.isForward || isZero (floatOf (.scalar p.distance))

def rereadProbe (p : Probe) : Probe where
  axis := p.axis
  direction := .int (if readsForward p then 1 else -1)
  distance := .float (settled (floatOf (.scalar p.distance)))
  feedRate := rereadNumber p.feedRate
  backoff := .float (settled (floatOf (.scalar p.backoff)))
  offset := .float (settled (floatOf p.offset)).abs
  preMoves := p.preMoves.map rereadStep
  postMoves := p.postMoves.map rereadStep
  id := .made

/-! ### Lines of plain steps -/

theorem mapM_eq_ok {ε α β : Type} {f : α → Except ε β} {g : α → β} {l : List α}
    (h : ∀ a ∈ l, f a = .ok (g a)) : l.mapM f = .ok (l.map g) := by
  induction l with
  | nil => rfl
  | cons a l ih =>
      rw [List.mapM_cons, h a List.mem_cons_self, ih fun b hb => h b (List.mem_cons_of_mem a hb)]
      rfl

theorem writeNumber_of_float {d : Datum} (h : d.toFloat = .ok (floatOf d)) :
    writeNumber d = .ok (writeFloat (floatOf d)) := by
  rw [writeNumber, h]
  rfl

theorem writeNumber_eq {d : Datum} (h : IsPlainNumber d) :
    writeNumber d = .ok (writeFloat (floatOf d)) := writeNumber_of_float h.float

def floatEntries (vs : AxisValues) : List (Axis × Float) :=
  vs.entries.map fun e => (e.1, floatOf e.2)

theorem axisWords_eq {vs : AxisValues} (h : ∀ e ∈ vs.entries, IsPlainNumber e.2) :
    axisWords vs = .ok ((floatEntries vs).map fun e => e.1.name ++ writeFloat e.2) := by
  have hfilter : vs.entries.filter (fun e => e.2.toNumber.isOk) = vs.entries :=
    List.filter_eq_self.2 fun e he => (h e he).number
  rw [axisWords, hfilter, mapM_eq_ok (g := fun e => e.1.name ++ writeFloat (floatOf e.2)),
    floatEntries, List.map_map]
  · rfl
  · intro e he
    rw [writeNumber_eq (h e he)]
    rfl

theorem commentOf_text (d : String) : commentOf (.text d) = d := by
  have htruthy : (Datum.text d).isTruthy = !d.isEmpty := rfl
  rw [commentOf, htruthy]
  cases hempty : d.isEmpty with
  | false => rfl
  | true => exact (String.isEmpty_iff.1 hempty).symm

def rapidCommand (r : Rapid) (es : List (Axis × Float)) : String :=
  " ".intercalate ("G0" :: modeWord r.mode ++ systemWord r.system ++
    es.map fun e => e.1.name ++ writeFloat e.2)

theorem stepLine?_rapid {r : Rapid} {vs : AxisValues} (hvs : r.axes = .values vs)
    (hne : vs.isEmpty = false) (h : ∀ e ∈ vs.entries, IsPlainNumber e.2) :
    stepLine? (.rapid r) =
      .ok (some (.command (rapidCommand r (floatEntries vs)) (commentOf r.description))) := by
  have hwords : ((floatEntries vs).map fun e => e.1.name ++ writeFloat e.2).isEmpty = false := by
    simpa [floatEntries, ByAxis.isEmpty] using hne
  rw [stepLine?, hvs, RapidAxes.toValues]
  change (do let words ← axisWords vs; _) = _
  rw [axisWords_eq h]
  change (if _ then _ else _) = _
  rw [hwords]
  rfl

theorem isTruthy_of_pos {s : Scalar} (h : IsPlainNumber (.scalar s))
    (hpos : zero < floatOf (.scalar s)) : s.isTruthy = true := by
  have hzero : ¬ zero < zero := by
    rw [zero_lt_iff parts_zero]
    simp
  have hnumber := h.number
  cases s with
  | null => cases hnumber
  | text t => cases hnumber
  | bool b =>
      cases b with
      | true => rfl
      | false => exact absurd hpos hzero
  | int n =>
      by_cases hn : n = 0
      · subst hn
        exact absurd hpos hzero
      · simp [Scalar.isTruthy, Scalar.number?, Number.isNull, hn]
  | float x =>
      have hx : floatOf (.scalar (.float x)) = x := rfl
      rw [hx] at hpos
      cases hz : isZero x with
      | false => simp [Scalar.isTruthy, Scalar.number?, Number.isNull, hz]
      | true =>
          obtain ⟨negative, hparts⟩ := isZero_iff.1 hz
          rw [zero_lt_iff hparts] at hpos
          exact absurd rfl hpos.2

def pauseCommand (d : Dwell) : String := s!"G4 P{writeFloat (floatOf (.scalar d.time))}"

theorem stepLine?_dwell {d : Dwell} (h : IsPlainNumber (.scalar d.time))
    (hpos : zero < floatOf (.scalar d.time)) :
    stepLine? (.dwell d) = .ok (some (.command (pauseCommand d) (commentOf d.description))) := by
  rw [stepLine?, isTruthy_of_pos h hpos, writeNumber_eq h]
  rfl

end TouchProbe.Program
