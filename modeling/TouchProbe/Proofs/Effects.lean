import TouchProbe.Proofs.Layout
import TouchProbe.Proofs.Runs

/-!
What one line does to the probes that are being read.  Of everything that is known after some lines
only three parts hold moves: the closed probes, the open one and the pending moves.  A line adds a
move, opens a probe, closes one, discards the moves of the setup, or does none of this; nothing else
can happen to a move, whatever the lines of a program are.
-/

namespace TouchProbe.Program

open Text Number State

/-- Whether a line is neither blank nor a comment as a whole. -/
def isCommandLine (line : List Char) : Bool := !(trim line).isEmpty && !isComment (trim line)

theorem isCommandLine_eq (line : List Char) : isCommandLine line = (markOf line != .passes) := by
  rw [isCommandLine, ← Bool.not_or, markOf]
  cases (trim line).isEmpty || isComment (trim line) with
  | true => rfl
  | false => cases isClearing (trim line) <;> rfl

theorem isCommandLine_of_clears {line : List Char} (h : markOf line = .clears) :
    isCommandLine line = true ∧ classify (code (trim line)) = .dwell := by
  simp only [markOf] at h
  split at h
  · cases h
  · next hline =>
    split at h
    · next hclears =>
      simp only [Bool.or_eq_true, not_or, Bool.not_eq_true] at hline
      simp only [isClearing, Bool.and_eq_true, beq_iff_eq] at hclears
      rw [trim_trim] at hclears
      exact ⟨by simp [isCommandLine, hline], hclears.1.2⟩
    · cases h

/-! ### The lines that open probes -/

structure ProbeLine where
  index : Nat
  axis : Axis
  value : Float
  feed : Option Float

/-- The probe line that a line is, if it probes and names one axis. -/
def probeLine? (index : Nat) (line : List Char) : Option ProbeLine :=
  if isCommandLine line && classify (code (trim line)) == .probe then
    match (axes (code (trim line))).entries with
    | [(axis, value)] => some ⟨index, axis, value, feed? (code (trim line))⟩
    | _ => none
  else none

/-- The feed rate of a probe line, if there is one other than zero. -/
def ProbeLine.feedRate? (l : ProbeLine) : Option Float := l.feed.filter fun x => !isZero x

def ProbeLine.opened (l : ProbeLine) (preMoves : List Step) : OpenProbe where
  axis := l.axis
  forward := !(l.value < zero)
  distance := l.value.abs
  feedRate := l.feedRate?.getD assumedFeedRate
  line := l.index + 1
  preMoves

/-- An open probe as its line opened it. -/
def OpenProbe.asOpened (p : OpenProbe) : OpenProbe := { p with backoff := none, offset := none }

/-! ### The lines that hold moves -/

def State.move? (st : State) (role : Role) (line : List Char) : Option Step :=
  let text := trim line
  if isCommandLine line && role == .free then
    match classify (code text) with
    | .rapid =>
      if (axes (code text)).isEmpty || st.isStart (code text) || (st.backoff? (code text)).isSome then
        none
      else some (rapidStep text (code text))
    | .dwell => (pause? (code text)).map (dwellStep text)
    | _ => none
  else none

def State.startsFirst (st : State) : Role → Bool
  | .starts _ => st.dwells.isNone
  | _ => false

/-- The pending moves that belong to the setup when the first run starts. -/
def State.setupMoves (st : State) : List Step :=
  if st.isSetUp then st.pending.take (st.setupEnd.getD st.pending.length) else []

def Assumption.feedLine? : Assumption → Option Nat
  | .feedRate line => some line
  | .backoff _ => none

def State.feedLines (st : State) : List Nat := st.assumptions.filterMap Assumption.feedLine?

/-! ### Effects -/

/-- What a line does, given whether it starts the first run, the step that it is read as, and the
probe line that it is. -/
inductive Effect (st st' : State) : Bool → Option Step → Option ProbeLine → Prop
  | rests (probes : st'.probes = st.probes)
      (current : st'.current.map OpenProbe.asOpened = st.current.map OpenProbe.asOpened)
      (pending : st'.pending = st.pending) (feeds : st'.feedLines = st.feedLines) :
      Effect st st' false none none
  | adds {step : Step} (probes : st'.probes = st.probes) (current : st'.current = st.current)
      (pending : st'.pending = st.pending ++ [step]) (feeds : st'.feedLines = st.feedLines) :
      Effect st st' false (some step) none
  | opens {l : ProbeLine}
      (probes : st'.probes = st.probes ++ st.current.toList.map fun p => p.close [])
      (current : st'.current = some (l.opened st.pending)) (pending : st'.pending = [])
      (feeds : st'.feedLines =
        st.feedLines ++ if l.feedRate?.isSome then [] else [l.index + 1]) :
      Effect st st' false none (some l)
  | closes {p : OpenProbe} (isOpen : st.current = some p)
      (probes : st'.probes = st.probes ++ [p.close st.pending]) (current : st'.current = none)
      (pending : st'.pending = []) (feeds : st'.feedLines = st.feedLines) :
      Effect st st' false none none
  | discards (probes : st'.probes = st.probes) (current : st'.current = st.current)
      (pending : st.setupMoves ++ st'.pending = st.pending) (feeds : st'.feedLines = st.feedLines) :
      Effect st st' true none none

/-- A state in which the probes and the moves are those of another. -/
theorem Effect.of_eq {st st' : State} (probes : st'.probes = st.probes)
    (current : st'.current = st.current) (pending : st'.pending = st.pending)
    (assumptions : st'.assumptions = st.assumptions) : Effect st st' false none none :=
  .rests probes (by rw [current]) pending (by rw [feedLines, assumptions, feedLines])

theorem Effect.refl (st : State) : Effect st st false none none := .of_eq rfl rfl rfl rfl

/-- What is known of the setup of the machine is no part of an effect. -/
theorem Effect.setUp {st st' : State} {first : Bool} {step : Option Step} {l : Option ProbeLine}
    (h : Effect st st' first step l) (set : Bool) :
    Effect st { st' with isSetUp := set } first step l := by
  cases h with
  | rests probes current pending feeds => exact .rests probes current pending feeds
  | adds probes current pending feeds => exact .adds probes current pending feeds
  | opens probes current pending feeds => exact .opens probes current pending feeds
  | closes isOpen probes current pending feeds => exact .closes isOpen probes current pending feeds
  | discards probes current pending feeds => exact .discards probes current pending feeds

theorem probes_closeProbe (st : State) :
    st.closeProbe.probes = st.probes ++ st.current.toList.map fun p => p.close st.pending := by
  rw [closeProbe]
  cases st.current <;> simp

theorem current_closeProbe (st : State) : st.closeProbe.current = none := by
  rw [closeProbe]
  cases h : st.current <;> simp [h]

theorem feedLines_closeProbe (st : State) : st.closeProbe.feedLines = st.feedLines := by
  rw [closeProbe, feedLines, feedLines]
  cases st.current with
  | none => rfl
  | some p => cases h : p.backoff.isSome <;> simp [h, Assumption.feedLine?]

theorem effect_closeProbe (st : State) : Effect st st.closeProbe false none none := by
  cases h : st.current with
  | none =>
      have hsame : st.closeProbe = st := by simp [closeProbe, h]
      rw [hsame]
      exact .refl st
  | some p =>
      have hprobes := probes_closeProbe st
      rw [h] at hprobes
      exact .closes h hprobes (current_closeProbe st) (by simp [closeProbe, h])
        (feedLines_closeProbe st)

theorem effect_readComment (st : State) (text : List Char) :
    Effect st (st.readComment text) false none none := by
  rw [readComment]
  split
  · exact .refl st
  · split
    · exact effect_closeProbe st
    · split
      · exact .of_eq rfl rfl rfl rfl
      · exact .refl st

theorem effect_enterRun (st : State) (length : Nat) :
    Effect st (st.enterRun length) (st.startsFirst (.starts length)) none none := by
  cases h : st.dwells with
  | some n =>
      rw [enterRun, startsFirst, h]
      exact effect_closeProbe st
  | none =>
      rw [enterRun, startsFirst, h]
      refine .discards rfl rfl ?_ rfl
      simp only [setupMoves]
      split
      · exact List.take_append_drop _ _
      · rfl

theorem effect_readUnits (st : State) (code : List Char) :
    Effect st (st.readUnits code) false none none := .of_eq rfl rfl rfl rfl

theorem effect_readSpindle (st : State) (line : Nat) (text code : List Char) :
    Effect st (st.readSpindle line text code) false none none := by
  rw [readSpindle]
  split
  · split
    · exact .of_eq rfl rfl rfl rfl
    · exact .of_eq rfl rfl rfl rfl
  · exact .refl st

theorem effect_readOrigin (st : State) (code : List Char) :
    Effect st (st.readOrigin code) false none none := by
  rw [readOrigin]
  split
  · exact .refl st
  · next p hp =>
    split
    · exact .refl st
    · exact .rests rfl (by simp [hp, OpenProbe.asOpened]) rfl rfl

/-- A probe line takes the pending moves, and the probe before it has no moves after it. -/
theorem effect_readProbe (st : State) {index : Nat} {line : List Char}
    (hline : isCommandLine line = true) (hprobe : classify (code (trim line)) = .probe) :
    Effect st (st.readProbe (index + 1) (trim line) (code (trim line))) false none
      (probeLine? index line) := by
  rw [readProbe, probeLine?, hline, hprobe]
  -- A line without axes and one with several are reported; only one axis opens a probe.
  rcases (axes (code (trim line))).entries with _ | ⟨⟨axis, value⟩, _ | ⟨e, es⟩⟩
  · exact .of_eq rfl rfl rfl rfl
  · refine Effect.opens (l := ⟨index, axis, value, feed? (code (trim line))⟩) (probes_closeProbe _) rfl
      ?_ ?_
    · simp only [closeProbe]
      cases st.current <;> rfl
    · refine (feedLines_closeProbe _).trans ?_
      rw [feedLines, feedLines, ProbeLine.feedRate?, ← probeFeed?]
      by_cases hfeed : (probeFeed? (code (trim line))).isSome = true
      · rw [if_pos hfeed, if_pos hfeed, List.append_nil]
      · rw [if_neg hfeed, if_neg hfeed, List.filterMap_append]
        rfl
  · exact .of_eq rfl rfl rfl rfl

/-- The retreat of the open probe is along its axis alone. -/
theorem backoff?_eq_some {st : State} {code : List Char} {b : OpenProbe × Float}
    (h : st.backoff? code = some b) :
    st.current = some b.1 ∧ ∃ value, (axes code).entries = [(b.1.axis, value)] ∧ b.2 = value.abs := by
  rw [backoff?] at h
  split at h
  · next p axis value hcurrent haxes =>
    split at h
    · next hguard =>
      simp only [Bool.and_eq_true, decide_eq_true_eq] at hguard
      obtain rfl := Option.some.inj h
      exact ⟨hcurrent, value, by rw [haxes, hguard.2], rfl⟩
    · cases h
  · cases h

/-- A rapid move is the start of the machine, the retreat of the open probe or a step. -/
theorem effect_readRapid (st : State) {line : List Char} (hline : isCommandLine line = true)
    (hrapid : classify (code (trim line)) = .rapid) :
    Effect st (st.readRapid (trim line) (code (trim line))) false (st.move? .free line) none := by
  rw [readRapid, move?, hline, hrapid]
  simp only [beq_self_eq_true, Bool.and_self, if_true]
  cases hempty : (axes (code (trim line))).isEmpty with
  | true =>
      simp only [if_true, Bool.true_or]
      exact .refl st
  | false =>
      cases hstart : st.isStart (code (trim line)) with
      | true =>
          simp only [Bool.false_eq_true, if_false, if_true, Bool.or_true, Bool.true_or]
          exact .of_eq rfl rfl rfl rfl
      | false =>
          simp only [Bool.false_eq_true, if_false, Bool.false_or]
          cases hbackoff : st.backoff? (code (trim line)) with
          | none => exact .adds rfl rfl rfl rfl
          | some b =>
              obtain ⟨hcurrent, -⟩ := backoff?_eq_some hbackoff
              exact .rests rfl (by simp [hcurrent, OpenProbe.asOpened]) rfl rfl

theorem effect_readDwell (st : State) {line : List Char} (hline : isCommandLine line = true)
    (hdwell : classify (code (trim line)) = .dwell) :
    Effect st (st.readDwell (trim line) (code (trim line))) false (st.move? .free line) none := by
  rw [readDwell, move?, hline, hdwell]
  cases pause? (code (trim line)) with
  | none => exact .refl st
  | some time => exact .adds rfl rfl rfl rfl

theorem move?_eq_none {st : State} {line : List Char} (hrapid : classify (code (trim line)) ≠ .rapid)
    (hdwell : classify (code (trim line)) ≠ .dwell) (role : Role) : st.move? role line = none := by
  simp only [move?]
  split <;> rfl

theorem probeLine?_eq_none {line : List Char} (h : classify (code (trim line)) ≠ .probe)
    (index : Nat) : probeLine? index line = none := by
  rw [probeLine?, if_neg]
  simp [h]

theorem effect_readCommand (st : State) {index : Nat} {line : List Char}
    (hline : isCommandLine line = true) :
    Effect st (st.readCommand (index + 1) (trim line) (code (trim line))) false
      (st.move? .free line) (probeLine? index line) := by
  have hneither (hprobe : classify (code (trim line)) ≠ .probe)
      (hrapid : classify (code (trim line)) ≠ .rapid)
      (hdwell : classify (code (trim line)) ≠ .dwell) :
      st.move? .free line = none ∧ probeLine? index line = none :=
    ⟨move?_eq_none hrapid hdwell .free, probeLine?_eq_none hprobe index⟩
  rw [readCommand]
  apply Effect.setUp
  cases hclass : classify (code (trim line)) with
  | probe =>
      rw [move?_eq_none (by simp [hclass]) (by simp [hclass])]
      exact effect_readProbe st hline hclass
  | rapid =>
      rw [probeLine?_eq_none (by simp [hclass])]
      exact effect_readRapid st hline hclass
  | dwell =>
      rw [probeLine?_eq_none (by simp [hclass])]
      exact effect_readDwell st hline hclass
  | units =>
      obtain ⟨hmove, hprobe⟩ := hneither (by simp [hclass]) (by simp [hclass]) (by simp [hclass])
      rw [hmove, hprobe]
      exact effect_readUnits st _
  | spindle =>
      obtain ⟨hmove, hprobe⟩ := hneither (by simp [hclass]) (by simp [hclass]) (by simp [hclass])
      rw [hmove, hprobe]
      exact effect_readSpindle st _ _ _
  | origin =>
      obtain ⟨hmove, hprobe⟩ := hneither (by simp [hclass]) (by simp [hclass]) (by simp [hclass])
      rw [hmove, hprobe]
      exact effect_readOrigin st _
  | goHome | other =>
      obtain ⟨hmove, hprobe⟩ := hneither (by simp [hclass]) (by simp [hclass]) (by simp [hclass])
      rw [hmove, hprobe]
      exact .refl st

/-! ### Lines and their roles -/

theorem readLine_of_command (st : State) (index : Nat) (role : Role) {line : List Char}
    (h : isCommandLine line = true) :
    st.readLine index role line =
      match role with
      | .starts length => st.enterRun length
      | .member => st
      | .free =>
        if (code (trim line)).isEmpty then st
        else st.readCommand (index + 1) (trim line) (code (trim line)) := by
  simp only [isCommandLine, Bool.and_eq_true, Bool.not_eq_true'] at h
  cases role <;> simp only [readLine, h.1, h.2, Bool.false_eq_true, if_false]

theorem readLine_of_not_command (st : State) (index : Nat) (role : Role) {line : List Char}
    (h : isCommandLine line = false) :
    st.readLine index role line = if (trim line).isEmpty then st else st.readComment (trim line) := by
  simp only [readLine]
  split
  · rfl
  · next hempty =>
    have hcomment : isComment (trim line) = true := by
      simpa [isCommandLine, hempty] using h
    rw [if_pos hcomment]

theorem clears_of_rolesFrom {marks : List Mark} {inRun : Bool} {k : Nat} {mark : Mark} {role : Role}
    (hmark : marks[k]? = some mark) (hrole : (rolesFrom inRun marks)[k]? = some role)
    (hne : role ≠ .free) : mark = .clears := by
  induction marks generalizing inRun k with
  | nil => simp at hmark
  | cons first rest ih =>
      cases k with
      | zero =>
          obtain rfl := Option.some.inj hmark
          cases first with
          | clears => rfl
          | passes => exact absurd (Option.some.inj hrole).symm hne
          | ends => exact absurd (Option.some.inj hrole).symm hne
      | succ k => cases first <;> exact ih (by simpa using hmark) (by simpa [rolesFrom] using hrole)

/-- Only clearing pauses have a role in runs. -/
theorem clears_of_roleOf {lines : List (List Char)} {index : Nat} {line : List Char}
    (hline : lines[index]? = some line) (hne : roleOf (runs lines) index ≠ .free) :
    markOf line = .clears := by
  have hmark : (lines.map markOf)[index]? = some (markOf line) := by simp [hline]
  exact clears_of_rolesFrom hmark (getElem?_rolesFrom (List.getElem?_eq_some_iff.1 hline).1) hne

theorem eq_free_of_not_command {role : Role} {line : List Char}
    (hrole : role ≠ .free → markOf line = .clears) (hline : isCommandLine line = false) :
    role = .free := by
  by_contra hne
  rw [(isCommandLine_of_clears (hrole hne)).1] at hline
  cases hline

/-- Runs have pauses as members, so a rapid move is never skipped as one. -/
theorem eq_free_of_rapid {role : Role} {line : List Char}
    (hrole : role ≠ .free → markOf line = .clears) (hrapid : classify (code (trim line)) = .rapid) :
    role = .free := by
  by_contra hne
  rw [(isCommandLine_of_clears (hrole hne)).2] at hrapid
  cases hrapid

/-- What a line does. -/
theorem effect_readLine (st : State) {index : Nat} {role : Role} {line : List Char}
    (hrole : role ≠ .free → markOf line = .clears) :
    Effect st (st.readLine index role line) (st.startsFirst role) (st.move? role line)
      (probeLine? index line) := by
  cases hline : isCommandLine line with
  | false =>
      have hfree := eq_free_of_not_command hrole hline
      have hmove : st.move? role line = none := by simp [move?, hline]
      have hprobe : probeLine? index line = none := by simp [probeLine?, hline]
      rw [readLine_of_not_command st index role hline, hmove, hprobe, hfree]
      split
      · exact .refl st
      · exact effect_readComment st _
  | true =>
      rw [readLine_of_command st index role hline]
      cases role with
      | free =>
          simp only
          split
          · next hempty =>
            -- Without a command text there is nothing to read, and no class either.
            have hcode : classify (code (trim line)) = .other := by
              rw [List.isEmpty_iff.1 hempty]
              decide
            rw [move?_eq_none (by simp [hcode]) (by simp [hcode]),
              probeLine?_eq_none (by simp [hcode])]
            exact .refl st
          · exact effect_readCommand st hline
      | starts length =>
          -- A member of a run is a pause, so it opens no probe, and it is not read as a step.
          obtain ⟨-, hdwell⟩ := isCommandLine_of_clears (hrole (by simp))
          have hmove : st.move? (.starts length) line = none := by simp [move?]
          rw [hmove, probeLine?_eq_none (by simp [hdwell])]
          exact effect_enterRun st length
      | member =>
          obtain ⟨-, hdwell⟩ := isCommandLine_of_clears (hrole (by simp))
          have hmove : st.move? .member line = none := by simp [move?]
          rw [hmove, probeLine?_eq_none (by simp [hdwell])]
          exact .refl st

/-! ### The states of a program -/

section Program

variable (lines : List (List Char))

/-- The state before a line of a program. -/
def stateAt : Nat → State
  | 0 => {}
  | k + 1 =>
    match lines[k]? with
    | some line => (stateAt k).readLine k (roleOf (runs lines) k) line
    | none => stateAt k

def moveAt? (k : Nat) : Option Step :=
  lines[k]?.bind ((stateAt lines k).move? (roleOf (runs lines) k))

def probeLineAt? (k : Nat) : Option ProbeLine := lines[k]?.bind (probeLine? k)

def startsFirstAt (k : Nat) : Bool := (stateAt lines k).startsFirst (roleOf (runs lines) k)

variable {lines}

theorem stateAt_succ {k : Nat} {line : List Char} (h : lines[k]? = some line) :
    stateAt lines (k + 1) = (stateAt lines k).readLine k (roleOf (runs lines) k) line := by
  rw [stateAt, h]

theorem readLines_eq_stateAt : readLines lines = stateAt lines lines.length := by
  have hprefix : ∀ k ≤ lines.length, (lines.zipIdx.take k).foldl
      (fun st l => st.readLine l.2 (roleOf (runs lines) l.2) l.1) {} = stateAt lines k := by
    intro k hk
    induction k with
    | zero => rfl
    | succ k ih =>
        have hlen : k < lines.length := hk
        have hline := List.getElem?_eq_getElem hlen
        rw [List.take_add_one, List.foldl_append, ih hlen.le, stateAt_succ hline,
          List.getElem?_zipIdx, hline]
        simp
  have hall := hprefix lines.length le_rfl
  rwa [List.take_of_length_le (by simp)] at hall

theorem effect_stateAt {k : Nat} (hk : k < lines.length) :
    Effect (stateAt lines k) (stateAt lines (k + 1)) (startsFirstAt lines k) (moveAt? lines k)
      (probeLineAt? lines k) := by
  have hline := List.getElem?_eq_getElem hk
  rw [stateAt_succ hline, moveAt?, probeLineAt?, hline]
  exact effect_readLine _ (clears_of_roleOf hline)

end Program

end TouchProbe.Program
