import TouchProbe.Proofs.Effects
import TouchProbe.Proofs.FloatBits

/-!
What one line does to what is known besides the probes and the moves: the values of the head of a
program, its problems and the setup of the machine.  Each handler sets at most one of them, and
those of the probes and the moves set none.
-/

namespace TouchProbe.Program

open Text Number State

/-- What is known in a state besides the probes and the moves. -/
structure Header where
  units : Option Units
  spindle : Option Int
  dwells : Option Nat
  start : ByAxis Float
  problems : List LineProblem
  isSetUp : Bool
  setupEnd : Option Nat

def State.header (st : State) : Header :=
  ⟨st.units, st.spindle, st.dwells, st.start, st.problems, st.isSetUp, st.setupEnd⟩

@[simp] theorem header_closeProbe (st : State) : st.closeProbe.header = st.header := by
  rw [closeProbe]
  split <;> rfl

@[simp] theorem header_readComment (st : State) (text : List Char) :
    (st.readComment text).header =
      { st.header with
        setupEnd :=
          if isPreMovesBanner text && st.current.isNone && st.dwells.isNone then
            st.setupEnd.or (some st.pending.length)
          else st.setupEnd } := by
  rw [readComment]
  cases isPreMovesBanner text with
  | false => rfl
  | true =>
      cases hcurrent : st.current with
      | some p => exact header_closeProbe st
      | none =>
          cases hdwells : st.dwells <;> cases hend : st.setupEnd <;> simp [header, hdwells, hend]

@[simp] theorem header_enterRun (st : State) (length : Nat) :
    (st.enterRun length).header = { st.header with dwells := st.dwells.or (some length) } := by
  rw [enterRun]
  cases hdwells : st.dwells with
  | some n =>
      simp only [header_closeProbe]
      simp [header, hdwells]
  | none => rfl

@[simp] theorem header_readOrigin (st : State) (code : List Char) :
    (st.readOrigin code).header = st.header := by
  rw [readOrigin]
  split
  · rfl
  · split <;> rfl

@[simp] theorem header_readDwell (st : State) (text code : List Char) :
    (st.readDwell text code).header = st.header := by
  rw [readDwell]
  split <;> rfl

/-! ### What commands set -/

def setUnits? (code : List Char) : Option Units :=
  if classify code = .units then some (if hasWord "G20".toList code then .inch else .mm) else none

/-- The speed that a command sets for the spindle, if it is a start of the spindle at the speed of a
float. -/
def setSpeed? (code : List Char) : Option Int :=
  if classify code = .spindle then (speed? code).bind truncate? else none

/-- The coordinates of the start of the machine that a command tells. -/
def State.setStart (st : State) (code : List Char) : List (Axis × Float) :=
  if classify code = .rapid ∧ st.isStart code = true then (axes code).entries else []

/-- What is wrong with a command, if anything, given whether a spindle speed is known. -/
def problem? (isKnown : Bool) (code : List Char) : Option Problem :=
  match classify code with
  | .probe => if (axes code).entries.length = 1 then none else some .notOneAxis
  | .spindle => if !isKnown && (speed? code).any Float.isInf then some .infiniteSpeed else none
  | _ => none

theorem isNone_truncate?_speed {code : List Char} {speed : Float} (h : speed? code = some speed) :
    (truncate? speed).isNone = speed.isInf := by
  obtain ⟨t, ht⟩ := exists_of_firstAnywhere h
  rw [speedWord?.eq_def] at ht
  split at ht
  · split at ht
    · cases ht
    · rw [← Option.some.inj ht]
      exact isNone_truncate?_nearestDecimal _ _ _
  · cases ht

section Command

variable (st : State) (line : Nat) (text code : List Char)

/-- What a command makes of a header. -/
def State.commanded : Header where
  units := st.units.or (setUnits? code)
  spindle := st.spindle.or (setSpeed? code)
  dwells := st.dwells
  start := st.start.fill (st.setStart code)
  problems := st.problems ++ ((problem? st.spindle.isSome code).map (⟨line, text, ·⟩)).toList
  isSetUp := st.isSetUp || isSetup code
  setupEnd := st.setupEnd

variable {code}

theorem header_readUnits (h : classify code = .units) :
    (st.readUnits code).header = { st.header with units := st.units.or (setUnits? code) } := by
  rw [setUnits?, if_pos h, readUnits]
  cases hunits : st.units <;> simp [header]

theorem header_readSpindle (h : classify code = .spindle) :
    (st.readSpindle line text code).header =
      { st.header with
        spindle := st.spindle.or (setSpeed? code)
        problems := st.problems ++
          ((problem? st.spindle.isSome code).map (⟨line, text, ·⟩)).toList } := by
  rw [readSpindle, setSpeed?, if_pos h, problem?, h]
  cases hspindle : st.spindle with
  | some n => simp [header, hspindle]
  | none =>
      cases hspeed : speed? code with
      | none => simp [header, hspindle]
      | some speed =>
          have hinf := isNone_truncate?_speed hspeed
          cases htruncate : truncate? speed <;> rw [htruncate] at hinf <;>
            simp [header, report, hspindle, htruncate, ← hinf]

theorem header_readProbe (h : classify code = .probe) :
    (st.readProbe line text code).header =
      { st.header with
        problems := st.problems ++
          ((problem? st.spindle.isSome code).map (⟨line, text, ·⟩)).toList } := by
  rw [readProbe, problem?, h]
  rcases (axes code).entries with _ | ⟨⟨axis, value⟩, _ | ⟨e, es⟩⟩
  · rfl
  · -- The probe that is open before is closed, which leaves the header as it is.
    simp only [List.length_singleton, if_true, Option.map_none, Option.toList_none, List.append_nil]
    exact header_closeProbe _
  · simp [header, report]

theorem header_readRapid (h : classify code = .rapid) :
    (st.readRapid text code).header =
      { st.header with start := st.start.fill (st.setStart code) } := by
  rw [readRapid, setStart]
  cases hempty : (axes code).isEmpty with
  | true =>
      rw [ByAxis.isEmpty, List.isEmpty_iff] at hempty
      simp [hempty, ByAxis.fill, header]
  | false =>
      cases hstart : st.isStart code with
      | true => simp [h, header]
      | false =>
          simp only [Bool.false_eq_true, if_false, and_false]
          split <;> rfl

/-- What a command does besides the probes and the moves. -/
theorem header_readCommand (code : List Char) :
    (st.readCommand line text code).header = st.commanded line text code := by
  have hset {next : State} {h : Header} (hnext : next.header = h) :
      ({ next with isSetUp := next.isSetUp || isSetup code } : State).header =
        { h with isSetUp := h.isSetUp || isSetup code } := by
    subst hnext
    rfl
  rw [readCommand]
  cases hclass : classify code with
  | units =>
      rw [hset (header_readUnits st hclass)]
      simp [commanded, header, setSpeed?, setStart, problem?, hclass, ByAxis.fill]
  | spindle =>
      rw [hset (header_readSpindle st line text hclass)]
      simp [commanded, header, setUnits?, setStart, hclass, ByAxis.fill]
  | probe =>
      rw [hset (header_readProbe st line text hclass)]
      simp [commanded, header, setUnits?, setSpeed?, setStart, hclass, ByAxis.fill]
  | rapid =>
      rw [hset (header_readRapid st text hclass)]
      simp [commanded, header, setUnits?, setSpeed?, problem?, hclass]
  | origin =>
      rw [hset (header_readOrigin st code)]
      simp [commanded, header, setUnits?, setSpeed?, setStart, problem?, hclass, ByAxis.fill]
  | dwell =>
      rw [hset (header_readDwell st text code)]
      simp [commanded, header, setUnits?, setSpeed?, setStart, problem?, hclass, ByAxis.fill]
  | goHome | other =>
      rw [hset rfl]
      simp [commanded, header, setUnits?, setSpeed?, setStart, problem?, hclass, ByAxis.fill]

end Command

/-! ### What lines set -/

/-- The command text of a line; a line that is no command has none. -/
def lineCode (line : List Char) : List Char := if isCommandLine line then code (trim line) else []

/-- The length of the run that a line starts. -/
def State.Role.run? : Role → Option Nat
  | .starts length => some length
  | _ => none

/-- Whether a command line that no run has as a member sets up the machine. -/
def setsUp (role : Role) (line : List Char) : Bool :=
  isCommandLine line && role == .free && isSetup (code (trim line))

/-- Whether a line is a banner that is read while no probe is open and before the first run. -/
def State.isFreeBanner (st : State) (line : List Char) : Bool :=
  isPreMovesBanner (trim line) && st.current.isNone && st.dwells.isNone

theorem isCommandLine_of_banner {line : List Char} (h : isPreMovesBanner (trim line) = true) :
    isCommandLine line = false := by
  rw [isCommandLine]
  cases htrim : trim line with
  | nil => rfl
  | cons c s =>
      by_cases hc : c = '('
      · simp [hc, isComment]
      · simp [htrim, isPreMovesBanner, hc] at h

/-- A text without words sets nothing. -/
theorem commanded_nil (st : State) (line : Nat) (text : List Char) :
    st.commanded line text [] = st.header := by
  have hclass : classify [] = .other := by decide
  have hset : isSetup [] = false := by decide
  simp [commanded, header, setUnits?, setSpeed?, setStart, problem?, hclass, hset, ByAxis.fill]

/-- A pause sets nothing, but it may name machine coordinates. -/
theorem commanded_dwell (st : State) (line : Nat) (text : List Char) {code : List Char}
    (h : classify code = .dwell) :
    st.commanded line text code = { st.header with isSetUp := st.isSetUp || isSetup code } := by
  simp [commanded, header, setUnits?, setSpeed?, setStart, problem?, h, ByAxis.fill]

section Lines

variable (st : State) {index : Nat} {role : Role} {line : List Char}

theorem isFreeBanner_of_command (h : isCommandLine line = true) : st.isFreeBanner line = false := by
  cases hbanner : isPreMovesBanner (trim line) with
  | false => simp [isFreeBanner, hbanner]
  | true =>
      rw [isCommandLine_of_banner hbanner] at h
      cases h

theorem isPreMovesBanner_of_isEmpty {text : List Char} (h : text.isEmpty = true) :
    isPreMovesBanner text = false := by
  rw [List.isEmpty_iff.1 h]
  rfl

/-- A line that is no command can only end the setup. -/
theorem header_readLine_of_not_command (hline : isCommandLine line = false) :
    (st.readLine index role line).header =
      { st.header with
        setupEnd :=
          if st.isFreeBanner line then st.setupEnd.or (some st.pending.length) else st.setupEnd } := by
  rw [readLine_of_not_command st index role hline, isFreeBanner]
  split
  · next hempty => simp [isPreMovesBanner_of_isEmpty hempty, header]
  · rw [header_readComment]

/-- A pause of a run sets nothing of its own. -/
theorem header_readLine_of_pause (hline : isCommandLine line = true) (hrole : role ≠ .free) :
    (st.readLine index role line).header =
      { st.header with dwells := st.dwells.or role.run? } := by
  rw [readLine_of_command st index role hline]
  cases role with
  | starts length =>
      rw [header_enterRun]
      simp [Role.run?, header]
  | member => simp [Role.run?, header]
  | free => exact absurd rfl hrole

theorem header_readLine_of_free (hline : isCommandLine line = true) :
    (st.readLine index .free line).header =
      { st.commanded (index + 1) (trim line) (code (trim line)) with
        isSetUp := st.isSetUp || isSetup (code (trim line)) } := by
  rw [readLine_of_command st index .free hline]
  dsimp only
  split
  · next hempty =>
    have hnone : isSetup [] = false := by decide
    rw [List.isEmpty_iff.1 hempty, commanded_nil, hnone, Bool.or_false]
    rfl
  · rw [header_readCommand]
    rfl

/-- What a line does besides the probes and the moves. -/
theorem header_readLine (hrole : role ≠ .free → markOf line = .clears) :
    (st.readLine index role line).header =
      { st.commanded (index + 1) (trim line) (lineCode line) with
        dwells := st.dwells.or role.run?
        isSetUp := st.isSetUp || setsUp role line
        setupEnd :=
          if st.isFreeBanner line then st.setupEnd.or (some st.pending.length) else st.setupEnd } := by
  cases hline : isCommandLine line with
  | false =>
      rw [header_readLine_of_not_command st hline, eq_free_of_not_command hrole hline, lineCode,
        hline, if_neg Bool.false_ne_true, commanded_nil]
      simp [Role.run?, setsUp, hline, header]
  | true =>
      rw [isFreeBanner_of_command st hline, lineCode, if_pos hline]
      by_cases hfree : role = .free
      · subst hfree
        rw [header_readLine_of_free st hline]
        simp [Role.run?, setsUp, hline, commanded]
      · obtain ⟨-, hdwell⟩ := isCommandLine_of_clears (hrole hfree)
        rw [header_readLine_of_pause st hline hfree, commanded_dwell st _ _ hdwell]
        simp [setsUp, hfree, header]

end Lines

theorem header_stateAt_succ {lines : List (List Char)} {k : Nat} {line : List Char}
    (h : lines[k]? = some line) :
    (stateAt lines (k + 1)).header =
      { (stateAt lines k).commanded (k + 1) (trim line) (lineCode line) with
        dwells := (stateAt lines k).dwells.or (roleOf (runs lines) k).run?
        isSetUp := (stateAt lines k).isSetUp || setsUp (roleOf (runs lines) k) line
        setupEnd :=
          if (stateAt lines k).isFreeBanner line then
            (stateAt lines k).setupEnd.or (some (stateAt lines k).pending.length)
          else (stateAt lines k).setupEnd } := by
  rw [stateAt_succ h, header_readLine _ (clears_of_roleOf h)]

end TouchProbe.Program
