import TouchProbe.Proofs.Effects

/-!
Labels do not matter.  The number of a line and the text of a line with a problem are shown in the
result of a reading, but nothing that is read depends on them.  A mask says how much of them is
shown: two runs that look alike through a mask go on alike, as long as they read lines that say the
same.
-/

namespace TouchProbe.Program

open Text Number State

/-! ### What is shown -/

/-- How a reading is shown: what becomes of a problem, if it is shown, and of the number of a
line. -/
structure Mask where
  problem : LineProblem → Option LineProblem
  line : Nat → Nat

namespace Mask

variable (m : Mask)

def openProbe (p : OpenProbe) : OpenProbe := { p with line := m.line p.line }

def assumption : Assumption → Assumption
  | .feedRate line => .feedRate (m.line line)
  | .backoff line => .backoff (m.line line)

def state (st : State) : State :=
  { st with
    current := st.current.map m.openProbe
    problems := st.problems.filterMap m.problem
    assumptions := st.assumptions.map m.assumption }

def reading (r : Reading) : Reading :=
  { r with
    problems := r.problems.filterMap m.problem
    assumptions := r.assumptions.map m.assumption }

theorem reading_state (st : State) : (m.state st).reading = m.reading st.reading := rfl

/-! ### Handlers that show no labels of their own -/

theorem state_closeProbe (st : State) : m.state st.closeProbe = (m.state st).closeProbe := by
  cases h : st.current with
  | none => simp [closeProbe, state, h]
  | some p =>
      cases hb : p.backoff <;>
        simp [closeProbe, state, h, hb, openProbe, assumption, OpenProbe.close]

theorem state_readComment (st : State) (text : List Char) :
    m.state (st.readComment text) = (m.state st).readComment text := by
  have hcurrent : (m.state st).current.isSome = st.current.isSome := Option.isSome_map
  rw [readComment, readComment, hcurrent]
  split
  · rfl
  · split
    · exact m.state_closeProbe st
    · exact apply_ite m.state _ _ _

theorem state_enterRun (st : State) (length : Nat) :
    m.state (st.enterRun length) = (m.state st).enterRun length := by
  have hdwells : (m.state st).dwells = st.dwells := rfl
  rw [enterRun, enterRun, hdwells]
  split
  · exact m.state_closeProbe st
  · rfl

theorem state_readOrigin (st : State) (code : List Char) :
    m.state (st.readOrigin code) = (m.state st).readOrigin code := by
  cases h : st.current with
  | none => simp [readOrigin, state, h]
  | some p => cases ha : (axes code).get? p.axis <;> simp [readOrigin, state, h, openProbe, ha]

theorem backoff?_state (st : State) (code : List Char) :
    (m.state st).backoff? code = (st.backoff? code).map fun b => (m.openProbe b.1, b.2) := by
  have hcurrent : (m.state st).current = st.current.map m.openProbe := rfl
  have hawaits : (m.state st).awaitsBackoff = st.awaitsBackoff := rfl
  rw [backoff?, backoff?, hcurrent, hawaits]
  cases st.current with
  | none => rfl
  | some p =>
      -- Only a move along one axis may be the retreat.
      rcases (axes code).entries with _ | ⟨⟨axis, value⟩, _ | ⟨e, es⟩⟩
      · rfl
      · exact (apply_ite (Option.map fun b : OpenProbe × Float => (m.openProbe b.1, b.2)) (_ = true)
          (some (p, value.abs)) none).symm
      · rfl

theorem state_readRapid (st : State) (text code : List Char) :
    m.state (st.readRapid text code) = (m.state st).readRapid text code := by
  have hstart : (m.state st).isStart code = st.isStart code := rfl
  rw [readRapid, readRapid, hstart, backoff?_state]
  split
  · rfl
  · split
    · rfl
    · cases st.backoff? code <;> rfl

theorem state_readDwell (st : State) (text code : List Char) :
    m.state (st.readDwell text code) = (m.state st).readDwell text code := by
  rw [readDwell, readDwell]
  split <;> rfl

theorem state_report (st : State) (line : Nat) (text : List Char) (problem : Problem) :
    m.state (st.report line text problem) =
      { m.state st with
        problems := (m.state st).problems ++ (m.problem ⟨line, text, problem⟩).toList } := by
  cases h : m.problem ⟨line, text, problem⟩ <;> simp [report, state, h]

end Mask

/-! ### Lines that say the same -/

/-- Whether two lines say the same, whatever else stands in them. -/
structure SaySame (line line' : List Char) : Prop where
  isEmpty : (trim line).isEmpty = (trim line').isEmpty
  isComment : isComment (trim line) = isComment (trim line')
  isBanner : isPreMovesBanner (trim line) = isPreMovesBanner (trim line')
  code : code (trim line) = code (trim line')
  comment : comment? (trim line) = comment? (trim line')

theorem SaySame.of_trim {line line' : List Char} (h : trim line = trim line') : SaySame line line' where
  isEmpty := by rw [h]
  isComment := by rw [h]
  isBanner := by rw [h]
  code := by rw [h]
  comment := by rw [h]

theorem SaySame.refl (line : List Char) : SaySame line line := .of_trim rfl

/-- Whether a mask shows two labels alike. -/
structure Mask.Joins (m : Mask) (line : Nat) (text : List Char) (line' : Nat) (text' : List Char) :
    Prop where
  number : m.line line = m.line line'
  problem : ∀ p, m.problem ⟨line, text, p⟩ = m.problem ⟨line', text', p⟩

theorem readComment_congr (st : State) {text text' : List Char}
    (h : isPreMovesBanner text = isPreMovesBanner text') :
    st.readComment text = st.readComment text' := by
  rw [readComment, readComment, h]

theorem describe_congr {text text' : List Char} (h : comment? text = comment? text') (made : String) :
    describe text made = describe text' made := by
  rw [describe, describe, h]

theorem readRapid_congr (st : State) {text text' : List Char} (h : comment? text = comment? text')
    (code : List Char) : st.readRapid text code = st.readRapid text' code := by
  rw [readRapid, readRapid, rapidStep, rapidStep, describe_congr h]

theorem readDwell_congr (st : State) {text text' : List Char} (h : comment? text = comment? text')
    (code : List Char) : st.readDwell text code = st.readDwell text' code := by
  rw [readDwell, readDwell]
  split
  · rfl
  · rw [dwellStep, dwellStep, describe_congr h]

namespace Mask

section Step

variable {m : Mask} {st st' : State} (h : m.state st = m.state st')

include h

theorem report_congr {line line' : Nat} {text text' : List Char} (hl : m.Joins line text line' text')
    (problem : Problem) :
    m.state (st.report line text problem) = m.state (st'.report line' text' problem) := by
  rw [state_report, state_report, h, hl.problem]

theorem readSpindle_congr {line line' : Nat} {text text' : List Char}
    (hl : m.Joins line text line' text') (code : List Char) :
    m.state (st.readSpindle line text code) = m.state (st'.readSpindle line' text' code) := by
  have hspindle : st.spindle = st'.spindle := (congrArg State.spindle h :)
  have hset (speed : Option Int) :
      m.state { st with spindle := speed } = m.state { st' with spindle := speed } :=
    congrArg (fun s : State => { s with spindle := speed }) h
  rw [readSpindle, readSpindle, hspindle]
  split
  · split
    · exact hset _
    · exact report_congr h hl _
  · exact h

/-- Closing a probe without moves after it, once an assumption has been noted. -/
theorem closeProbe_congr {noted noted' : List Assumption}
    (hnoted : noted.map m.assumption = noted'.map m.assumption) :
    m.state ({ st with pending := [], assumptions := noted } : State).closeProbe =
      m.state ({ st' with pending := [], assumptions := noted' } : State).closeProbe := by
  have hstate : m.state { st with pending := [], assumptions := noted } =
      m.state { st' with pending := [], assumptions := noted' } :=
    calc m.state { st with pending := [], assumptions := noted }
        = { m.state st with pending := [], assumptions := noted.map m.assumption } := rfl
      _ = { m.state st' with pending := [], assumptions := noted'.map m.assumption } := by
          rw [h, hnoted]
  rw [state_closeProbe, state_closeProbe, hstate]

theorem readProbe_congr {line line' : Nat} {text text' : List Char}
    (hl : m.Joins line text line' text') (code : List Char) :
    m.state (st.readProbe line text code) = m.state (st'.readProbe line' text' code) := by
  have hpending : st.pending = st'.pending := (congrArg State.pending h :)
  have hassumptions : st.assumptions.map m.assumption = st'.assumptions.map m.assumption :=
    (congrArg State.assumptions h :)
  rw [readProbe, readProbe, hpending]
  split
  · next axis value hentries =>
    -- The two runs may have noted different lines, which the mask shows alike.
    have hnoted : (if (probeFeed? code).isSome then st.assumptions
          else st.assumptions ++ [.feedRate line]).map m.assumption =
        (if (probeFeed? code).isSome then st'.assumptions
          else st'.assumptions ++ [.feedRate line']).map m.assumption := by
      split
      · exact hassumptions
      · rw [List.map_append, List.map_append, hassumptions, List.map_singleton, List.map_singleton,
          assumption, assumption, hl.number]
    have hopens (s : State) (p : OpenProbe) :
        m.state { s with current := some p } =
          { m.state s with current := some (m.openProbe p) } := rfl
    rw [hopens, hopens, closeProbe_congr h hnoted]
    simp only [openProbe, hl.number]
  · exact report_congr h hl _

theorem setUp_congr (set : Bool) :
    m.state { st with isSetUp := st.isSetUp || set } =
      m.state { st' with isSetUp := st'.isSetUp || set } :=
  congrArg (fun s : State => { s with isSetUp := s.isSetUp || set }) h

theorem readCommand_congr {line line' : Nat} {text text' : List Char}
    (hl : m.Joins line text line' text') (hcomment : comment? text = comment? text')
    (code : List Char) :
    m.state (st.readCommand line text code) = m.state (st'.readCommand line' text' code) := by
  rw [readCommand, readCommand]
  refine setUp_congr ?_ _
  cases classify code with
  | units => exact congrArg (readUnits · code) h
  | spindle => exact readSpindle_congr h hl code
  | probe => exact readProbe_congr h hl code
  | origin =>
      simp only
      rw [state_readOrigin, state_readOrigin, h]
  | rapid =>
      simp only
      rw [state_readRapid, state_readRapid, h, readRapid_congr _ hcomment]
  | dwell =>
      simp only
      rw [state_readDwell, state_readDwell, h, readDwell_congr _ hcomment]
  | goHome | other => exact h

/-- Two runs that look alike through a mask do so after two lines that say the same. -/
theorem readLine_congr {index index' : Nat} {line line' : List Char} (hsay : SaySame line line')
    (hl : m.Joins (index + 1) (trim line) (index' + 1) (trim line')) (role : Role) :
    m.state (st.readLine index role line) = m.state (st'.readLine index' role line') := by
  simp only [readLine, ← hsay.isEmpty, ← hsay.isComment, ← hsay.code]
  split
  · exact h
  · split
    · rw [state_readComment, state_readComment, h, readComment_congr _ hsay.isBanner]
    · split
      · rw [state_enterRun, state_enterRun, h]
      · exact h
      · split
        · exact h
        · exact readCommand_congr h hl hsay.comment _

end Step

end Mask

end TouchProbe.Program
