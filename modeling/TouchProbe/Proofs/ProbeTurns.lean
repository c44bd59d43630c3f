import TouchProbe.Proofs.Headers

/-!
Once its line is read, a probe waits for two things: the value that a line gives to the work origin
of its axis, and its retreat.  A line may tell one of them, or close the probe, or do nothing to it;
in between, a reader carries one bit of what it has seen, whether the next rapid move may be the
retreat.
-/

namespace TouchProbe.Program

open Text Number State

/-! ### What lines say to an open probe -/

/-- What becomes of a rapid move with axes: it tells where the machine starts, it is the retreat of
the open probe, of some length, or it is a step. -/
inductive Use where
  | start
  | retreat (length : Float)
  | step

namespace Use

/-- Whether the machine moves, as it does unless the move tells where it starts. -/
def moves : Use → Bool
  | start => false
  | retreat _ | step => true

/-- The length of a retreat. -/
def retreat? : Use → Option Float
  | retreat length => some length
  | start | step => none

end Use

/-- What becomes of a line, if it is a rapid move with axes. -/
def State.use? (st : State) (line : List Char) : Option Use :=
  if classify (lineCode line) == .rapid && !(axes (lineCode line)).isEmpty then
    if st.isStart (lineCode line) then some .start
    else match st.backoff? (lineCode line) with
      | some b => some (.retreat b.2)
      | none => some .step
  else none

/-- The value that a line gives to the work origin of an axis, if it sets it. -/
def origin? (line : List Char) (a : Axis) : Option Float :=
  if classify (lineCode line) == .origin then (axes (lineCode line)).get? a else none

/-- Whether a line closes the open probe: a banner, the start of a run other than the first one, or
a probe line. -/
def State.closes (st : State) (index : Nat) (role : Role) (line : List Char) : Bool :=
  isPreMovesBanner (trim line) || (role.run?.isSome && !st.startsFirst role) ||
    (probeLine? index line).isSome

def Assumption.backoffLine? : Assumption → Option Nat
  | .backoff line => some line
  | .feedRate _ => none

/-- The lines of the probes whose retreats are assumed. -/
def State.backoffLines (st : State) : List Nat := st.assumptions.filterMap Assumption.backoffLine?

/-! ### What a line does to the open probe -/

/-- What a line does to the open probe and its retreat, given whether it closes probes, the probe
line that it is, the values that it gives to the work origins and its use as a rapid move. -/
inductive Turn (st st' : State) (origin : Axis → Option Float) :
    Bool → Option ProbeLine → Option Use → Prop
  | rests {use : Option Use} (unset : ∀ p ∈ st.current, origin p.axis = none)
      (unmoved : use.any Use.moves = false) (current : st'.current = st.current)
      (awaits : st'.awaitsBackoff = st.awaitsBackoff) (probes : st'.probes = st.probes)
      (assumed : st'.backoffLines = st.backoffLines) : Turn st st' origin false none use
  | sets {p : OpenProbe} {value : Float} (isOpen : st.current = some p)
      (isSet : origin p.axis = some value)
      (current : st'.current = some { p with offset := some value.abs })
      (awaits : st'.awaitsBackoff = true) (probes : st'.probes = st.probes)
      (assumed : st'.backoffLines = st.backoffLines) : Turn st st' origin false none none
  | retreats {p : OpenProbe} {length : Float} (isOpen : st.current = some p)
      (unset : ∀ a, origin a = none)
      (current : st'.current = some { p with backoff := some length })
      (awaits : st'.awaitsBackoff = false) (probes : st'.probes = st.probes)
      (assumed : st'.backoffLines = st.backoffLines) :
      Turn st st' origin false none (some (.retreat length))
  | moves (unset : ∀ a, origin a = none) (current : st'.current = st.current)
      (awaits : st'.awaitsBackoff = false) (probes : st'.probes = st.probes)
      (assumed : st'.backoffLines = st.backoffLines) : Turn st st' origin false none (some .step)
  | closes {moves : List Step} (unset : ∀ a, origin a = none)
      (probes : st'.probes = st.probes ++ st.current.toList.map fun p => p.close moves)
      (current : st'.current = none)
      (awaits : st'.awaitsBackoff = (st.current.isNone && st.awaitsBackoff))
      (assumed : st'.backoffLines = st.backoffLines ++
        (st.current.toList.filter fun p => p.backoff.isNone).map OpenProbe.line) :
      Turn st st' origin true none none
  | opens {l : ProbeLine} {moves pending : List Step} (unset : ∀ a, origin a = none)
      (probes : st'.probes = st.probes ++ st.current.toList.map fun p => p.close moves)
      (current : st'.current = some (l.opened pending))
      (awaits : st'.awaitsBackoff = (st.current.isNone && st.awaitsBackoff))
      (assumed : st'.backoffLines = st.backoffLines ++
        (st.current.toList.filter fun p => p.backoff.isNone).map OpenProbe.line) :
      Turn st st' origin true (some l) none

section Turn

variable {st st' : State} {origin : Axis → Option Float}

/-- What is known of the setup of the machine is no part of it. -/
theorem Turn.setUp {closes : Bool} {l : Option ProbeLine} {use : Option Use}
    (h : Turn st st' origin closes l use) (set : Bool) :
    Turn st { st' with isSetUp := set } origin closes l use := by
  cases h with
  | rests unset unmoved current awaits probes assumed =>
      exact .rests unset unmoved current awaits probes assumed
  | sets isOpen isSet current awaits probes assumed =>
      exact .sets isOpen isSet current awaits probes assumed
  | retreats isOpen unset current awaits probes assumed =>
      exact .retreats isOpen unset current awaits probes assumed
  | moves unset current awaits probes assumed => exact .moves unset current awaits probes assumed
  | closes unset probes current awaits assumed => exact .closes unset probes current awaits assumed
  | opens unset probes current awaits assumed => exact .opens unset probes current awaits assumed

/-- A state that differs in nothing that concerns the open probe. -/
theorem Turn.of_eq (unset : ∀ a, origin a = none) {use : Option Use}
    (unmoved : use.any Use.moves = false) (current : st'.current = st.current)
    (awaits : st'.awaitsBackoff = st.awaitsBackoff) (probes : st'.probes = st.probes)
    (assumptions : st'.assumptions = st.assumptions) : Turn st st' origin false none use :=
  .rests (fun p _ => unset p.axis) unmoved current awaits probes
    (by rw [backoffLines, assumptions, backoffLines])

theorem awaitsBackoff_closeProbe (st : State) :
    st.closeProbe.awaitsBackoff = (st.current.isNone && st.awaitsBackoff) := by
  rw [closeProbe]
  cases st.current <;> simp

theorem backoffLines_closeProbe (st : State) :
    st.closeProbe.backoffLines = st.backoffLines ++
      (st.current.toList.filter fun p => p.backoff.isNone).map OpenProbe.line := by
  rw [closeProbe, backoffLines, backoffLines]
  cases st.current with
  | none => simp
  | some p => cases h : p.backoff <;> simp [h, Assumption.backoffLine?]

end Turn

/-- Which move is the retreat of the open probe, unless it tells where the machine starts. -/
theorem map_backoff?_eq_some {st : State} {p : OpenProbe} (hopen : st.current = some p)
    (code : List Char) (length : Float) :
    (st.backoff? code).map Prod.snd = some length ↔ hasWord "G91".toList code = true ∧
      (∃ value, (axes code).entries = [(p.axis, value)] ∧ length = value.abs) ∧
      st.awaitsBackoff = true := by
  rw [backoff?, hopen]
  rcases (axes code).entries with _ | ⟨⟨axis, value⟩, _ | ⟨e, es⟩⟩
  · simp
  · by_cases haxis : axis = p.axis
    · simp [haxis, @eq_comm _ length, and_comm, and_left_comm, and_assoc]
    · simp [haxis]
  · simp

/-- Which rapid move is the retreat of the open probe. -/
theorem use?_eq_retreat {st : State} {line : List Char} {p : OpenProbe}
    (hrapid : classify (lineCode line) = .rapid) (hopen : st.current = some p) (length : Float) :
    st.use? line = some (.retreat length) ↔ st.use? line ≠ some .start ∧
      hasWord "G91".toList (lineCode line) = true ∧
      (∃ value, (axes (lineCode line)).entries = [(p.axis, value)] ∧ length = value.abs) ∧
      st.awaitsBackoff = true := by
  rw [← map_backoff?_eq_some hopen, use?, hrapid]
  cases hempty : (axes (lineCode line)).isEmpty with
  | true =>
      have hentries : (axes (lineCode line)).entries = [] := List.isEmpty_iff.1 hempty
      simp [backoff?, hopen, hentries]
  | false =>
      cases hstart : st.isStart (lineCode line) with
      | true => simp
      | false => cases st.backoff? (lineCode line) <;> simp

/-! ### The class of a line -/

theorem lineCode_of_command {line : List Char} (h : isCommandLine line = true) :
    lineCode line = code (trim line) := if_pos h

theorem classify_lineCode_of_not_command {line : List Char} (h : isCommandLine line = false) :
    classify (lineCode line) = .other := by
  have hcode : lineCode line = [] := by simp [lineCode, h]
  rw [hcode]
  decide

theorem isPreMovesBanner_of_command {line : List Char} (h : isCommandLine line = true) :
    isPreMovesBanner (trim line) = false := by
  rw [Bool.eq_false_iff]
  intro hbanner
  rw [isCommandLine_of_banner hbanner] at h
  cases h

theorem origin?_eq_none {line : List Char} (h : classify (lineCode line) ≠ .origin) (a : Axis) :
    origin? line a = none := by
  rw [origin?, if_neg (by simpa using h)]

theorem use?_eq_none {line : List Char} (h : classify (lineCode line) ≠ .rapid) (st : State) :
    st.use? line = none := by
  rw [use?, if_neg (by simp [h])]

theorem probeLine?_of_lineCode {line : List Char} (h : classify (lineCode line) ≠ .probe)
    (index : Nat) : probeLine? index line = none := by
  cases hline : isCommandLine line with
  | true => exact probeLine?_eq_none (by rwa [lineCode_of_command hline] at h) index
  | false => simp [probeLine?, hline]

/-- Whether the class of a line is none of those that say something to an open probe. -/
def isQuiet (line : List Char) : Bool :=
  !([.probe, .origin, .rapid] : List Command).contains (classify (lineCode line))

section Quiet

variable {st st' : State} {index : Nat} {line : List Char} (hquiet : isQuiet line = true)

include hquiet

variable (st index) in
theorem silent_of_isQuiet : (∀ a, origin? line a = none) ∧ probeLine? index line = none ∧
    st.use? line = none := by
  simp only [isQuiet, List.contains_eq_mem, List.mem_cons, List.not_mem_nil, or_false,
    Bool.not_eq_true', decide_eq_false_iff_not, not_or] at hquiet
  obtain ⟨hprobe, horigin, hrapid⟩ := hquiet
  exact ⟨origin?_eq_none horigin, probeLine?_of_lineCode hprobe index, use?_eq_none hrapid st⟩

/-- A line that closes nothing and says nothing to an open probe. -/
theorem Turn.of_isQuiet (current : st'.current = st.current)
    (awaits : st'.awaitsBackoff = st.awaitsBackoff) (probes : st'.probes = st.probes)
    (assumptions : st'.assumptions = st.assumptions) :
    Turn st st' (origin? line) false (probeLine? index line) (st.use? line) := by
  obtain ⟨unset, hprobe, huse⟩ := silent_of_isQuiet st index hquiet
  rw [hprobe, huse]
  exact .rests (fun p _ => unset p.axis) rfl current awaits probes
    (by rw [backoffLines, assumptions, backoffLines])

/-- A line that closes probes without a probe line of its own. -/
theorem Turn.closed_of_isQuiet : Turn st st.closeProbe (origin? line) true (probeLine? index line)
    (st.use? line) := by
  obtain ⟨unset, hprobe, huse⟩ := silent_of_isQuiet st index hquiet
  rw [hprobe, huse]
  exact .closes unset (probes_closeProbe st) (current_closeProbe st) (awaitsBackoff_closeProbe st)
    (backoffLines_closeProbe st)

/-- Where no probe is open there is nothing to close. -/
theorem Turn.unopened (hnone : st.current = none) (current : st'.current = st.current)
    (awaits : st'.awaitsBackoff = st.awaitsBackoff) (probes : st'.probes = st.probes)
    (assumptions : st'.assumptions = st.assumptions) :
    Turn st st' (origin? line) true (probeLine? index line) (st.use? line) := by
  obtain ⟨unset, hprobe, huse⟩ := silent_of_isQuiet st index hquiet
  rw [hprobe, huse]
  have hprobes : st'.probes = st.probes ++ st.current.toList.map fun p => p.close [] := by
    simp [hnone, probes]
  exact .closes unset hprobes (current.trans hnone) (by simp [hnone, awaits])
    (by simp [hnone, backoffLines, assumptions])

end Quiet

theorem isQuiet_of_not_command {line : List Char} (h : isCommandLine line = false) :
    isQuiet line = true := by
  simp [isQuiet, classify_lineCode_of_not_command h]

theorem isQuiet_of_dwell {line : List Char} (hline : isCommandLine line = true)
    (h : classify (code (trim line)) = .dwell) : isQuiet line = true := by
  simp [isQuiet, lineCode_of_command hline, h]

/-! ### What each line does -/

/-- A line that is no command says nothing to an open probe unless it is a banner. -/
theorem turn_of_not_command (st : State) {index : Nat} {line : List Char}
    (hline : isCommandLine line = false) :
    Turn st (st.readLine index .free line) (origin? line) (st.closes index .free line)
      (probeLine? index line) (st.use? line) := by
  have hquiet := isQuiet_of_not_command hline
  have hcloses : st.closes index .free line = isPreMovesBanner (trim line) := by
    simp [State.closes, (silent_of_isQuiet st index hquiet).2.1, Role.run?]
  rw [readLine_of_not_command st index .free hline, hcloses]
  split
  · next hempty =>
    rw [List.isEmpty_iff.1 hempty]
    exact .of_isQuiet hquiet rfl rfl rfl rfl
  · rw [readComment]
    cases isPreMovesBanner (trim line) with
    | false => exact .of_isQuiet hquiet rfl rfl rfl rfl
    | true =>
        rw [Bool.not_true, if_neg Bool.false_ne_true]
        split
        · exact .closed_of_isQuiet hquiet
        · next hopen =>
          rw [Option.not_isSome_iff_eq_none] at hopen
          split <;> exact .unopened hquiet hopen rfl rfl rfl rfl

/-- The start of a run closes the open probe, unless the run is the first one. -/
theorem turn_enterRun (st : State) {index length : Nat} {line : List Char}
    (hline : isCommandLine line = true) (hdwell : classify (code (trim line)) = .dwell) :
    Turn st (st.enterRun length) (origin? line) (st.closes index (.starts length) line)
      (probeLine? index line) (st.use? line) := by
  have hquiet := isQuiet_of_dwell hline hdwell
  have hcloses : st.closes index (.starts length) line = st.dwells.isSome := by
    simp [State.closes, isPreMovesBanner_of_command hline, Role.run?, startsFirst,
      (silent_of_isQuiet st index hquiet).2.1]
  rw [hcloses, enterRun]
  cases st.dwells with
  | some n => exact .closed_of_isQuiet hquiet
  | none => exact .of_isQuiet hquiet rfl rfl rfl rfl

section Command

variable (st : State) {index : Nat} {line : List Char} (hline : isCommandLine line = true)

include hline

theorem turn_readProbe (hprobe : classify (code (trim line)) = .probe) :
    Turn st (st.readProbe (index + 1) (trim line) (code (trim line))) (origin? line)
      (probeLine? index line).isSome (probeLine? index line) none := by
  have unset (a : Axis) : origin? line a = none :=
    origin?_eq_none (by simp [lineCode_of_command hline, hprobe]) a
  rw [readProbe, probeLine?, hline, hprobe]
  -- Only a line with one axis opens a probe; any other leaves the one that is open.
  rcases (axes (code (trim line))).entries with _ | ⟨⟨axis, value⟩, _ | ⟨e, es⟩⟩
  · exact .of_eq unset rfl rfl rfl rfl rfl
  · have hassumed : State.backoffLines { st with
        pending := []
        assumptions :=
          if (probeFeed? (code (trim line))).isSome then st.assumptions
          else st.assumptions ++ [Assumption.feedRate (index + 1)] } = st.backoffLines := by
      rw [backoffLines, backoffLines]
      split
      · rfl
      · rw [List.filterMap_append]
        exact List.append_nil _
    exact .opens (l := ⟨index, axis, value, feed? (code (trim line))⟩) unset (probes_closeProbe _) rfl
      (awaitsBackoff_closeProbe _) (by rw [← hassumed]; exact backoffLines_closeProbe _)
  · exact .of_eq unset rfl rfl rfl rfl rfl

theorem turn_readOrigin (horigin : classify (code (trim line)) = .origin) :
    Turn st (st.readOrigin (code (trim line))) (origin? line) false none none := by
  have hvalue (a : Axis) : origin? line a = (axes (code (trim line))).get? a := by
    simp [origin?, lineCode_of_command hline, horigin]
  rw [readOrigin]
  split
  · next hnone => exact .rests (by simp [hnone]) rfl rfl rfl rfl rfl
  · next p hp =>
    split
    · next hget => exact .rests (by simp [hp, hvalue, hget]) rfl rfl rfl rfl rfl
    · next value hget => exact .sets hp (by rw [hvalue, hget]) rfl rfl rfl rfl

theorem turn_readRapid (hrapid : classify (code (trim line)) = .rapid) :
    Turn st (st.readRapid (trim line) (code (trim line))) (origin? line) false none
      (st.use? line) := by
  have unset (a : Axis) : origin? line a = none :=
    origin?_eq_none (by simp [lineCode_of_command hline, hrapid]) a
  rw [readRapid, use?, lineCode_of_command hline, hrapid]
  cases hempty : (axes (code (trim line))).isEmpty with
  | true => exact .of_eq unset rfl rfl rfl rfl rfl
  | false =>
      cases hstart : st.isStart (code (trim line)) with
      | true => exact .of_eq unset rfl rfl rfl rfl rfl
      | false =>
          cases hbackoff : st.backoff? (code (trim line)) with
          | none => exact .moves unset rfl rfl rfl rfl
          | some b => exact .retreats (backoff?_eq_some hbackoff).1 unset rfl rfl rfl rfl

theorem turn_readCommand :
    Turn st (st.readCommand (index + 1) (trim line) (code (trim line))) (origin? line)
      (probeLine? index line).isSome (probeLine? index line) (st.use? line) := by
  have hcode := lineCode_of_command hline
  have hnotProbe (h : classify (code (trim line)) ≠ .probe) :
      (probeLine? index line).isSome = false := by rw [probeLine?_eq_none h, Option.isSome_none]
  rw [readCommand]
  apply Turn.setUp
  cases hclass : classify (code (trim line)) with
  | probe =>
      rw [use?_eq_none (by simp [hcode, hclass])]
      exact turn_readProbe st hline hclass
  | origin =>
      rw [probeLine?_eq_none (by simp [hclass]), use?_eq_none (by simp [hcode, hclass])]
      exact turn_readOrigin st hline hclass
  | rapid =>
      rw [probeLine?_eq_none (by simp [hclass])]
      exact turn_readRapid st hline hclass
  | spindle =>
      rw [hnotProbe (by simp [hclass])]
      have hquiet : isQuiet line = true := by simp [isQuiet, hcode, hclass]
      simp only [readSpindle]
      split
      · split <;> exact .of_isQuiet hquiet rfl rfl rfl rfl
      · exact .of_isQuiet hquiet rfl rfl rfl rfl
  | dwell =>
      rw [hnotProbe (by simp [hclass])]
      have hquiet := isQuiet_of_dwell hline hclass
      simp only [readDwell]
      split <;> exact .of_isQuiet hquiet rfl rfl rfl rfl
  | units | goHome | other =>
      rw [hnotProbe (by simp [hclass])]
      exact .of_isQuiet (by simp [isQuiet, hcode, hclass]) rfl rfl rfl rfl

end Command

/-- What a line does to the open probe. -/
theorem turn_readLine (st : State) {index : Nat} {role : Role} {line : List Char}
    (hrole : role ≠ .free → markOf line = .clears) :
    Turn st (st.readLine index role line) (origin? line) (st.closes index role line)
      (probeLine? index line) (st.use? line) := by
  cases hline : isCommandLine line with
  | false =>
      rw [eq_free_of_not_command hrole hline]
      exact turn_of_not_command st hline
  | true =>
      have hbanner := isPreMovesBanner_of_command hline
      rw [readLine_of_command st index role hline]
      cases role with
      | free =>
          have hcloses : st.closes index .free line = (probeLine? index line).isSome := by
            simp [State.closes, hbanner, Role.run?]
          rw [hcloses]
          simp only
          split
          · next hempty =>
            -- Without a command text a line has no class.
            have hclass : classify (lineCode line) = .other := by
              rw [lineCode_of_command hline, List.isEmpty_iff.1 hempty]
              decide
            have hprobe : (probeLine? index line).isSome = false := by
              rw [probeLine?_of_lineCode (by simp [hclass]), Option.isSome_none]
            rw [hprobe]
            exact .of_isQuiet (by simp [isQuiet, hclass]) rfl rfl rfl rfl
          · exact turn_readCommand st hline
      | starts length =>
          obtain ⟨-, hdwell⟩ := isCommandLine_of_clears (hrole (by simp))
          exact turn_enterRun st hline hdwell
      | member =>
          obtain ⟨-, hdwell⟩ := isCommandLine_of_clears (hrole (by simp))
          have hquiet := isQuiet_of_dwell hline hdwell
          have hcloses : st.closes index .member line = false := by
            simp [State.closes, hbanner, Role.run?,
              (silent_of_isQuiet st index hquiet).2.1]
          rw [hcloses]
          exact .of_isQuiet hquiet rfl rfl rfl rfl

end TouchProbe.Program
