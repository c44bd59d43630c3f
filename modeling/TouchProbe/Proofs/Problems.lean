import TouchProbe.Proofs.Checks
import TouchProbe.Proofs.Masks

/-!
Problems are exact and isolated.  A reading lists one problem for each probe line that does not name
exactly one axis and for each spindle start whose speed is beyond all floats while none is known,
and nothing else.  Such a line does nothing more: a command that only touches the setup of the
machine can stand in its place.
-/

namespace TouchProbe

namespace Text

theorem splitOn_eq (sep : Char) (s : List Char) : splitOn sep s = s.splitOn sep := by
  induction s with
  | nil => rfl
  | cons c s ih =>
      obtain ⟨part, parts, hs⟩ := List.exists_cons_of_ne_nil (splitOn_ne_nil sep s)
      rw [List.splitOn] at ih ⊢
      rw [splitOn, List.splitOnP_cons_eq_if_modifyHead, ← ih, hs]
      simp

theorem not_mem_of_mem_splitOn {sep : Char} {s part : List Char} (h : part ∈ splitOn sep s) :
    sep ∉ part := by
  induction s generalizing part with
  | nil =>
      rw [splitOn, List.mem_singleton] at h
      simp [h]
  | cons c s ih =>
      rw [splitOn] at h
      split at h
      · rcases List.mem_cons.1 h with rfl | h
        · exact List.not_mem_nil
        · exact ih h
      · next hc =>
        obtain ⟨first, parts, hs⟩ := List.exists_cons_of_ne_nil (splitOn_ne_nil sep s)
        rw [hs] at h ih
        rcases List.mem_cons.1 h with rfl | h
        · rw [List.mem_cons, not_or]
          exact ⟨Ne.symm hc, ih List.mem_cons_self⟩
        · exact ih (List.mem_cons_of_mem first h)

end Text

namespace Program

open Text Number State

/-! ### Lines with a problem -/

/-- Only probe lines and spindle starts have problems. -/
theorem classify_of_problem {isKnown : Bool} {code : List Char} {p : Problem}
    (h : problem? isKnown code = some p) : classify code = .probe ∨ classify code = .spindle := by
  rw [problem?] at h
  split at h
  · next hclass => exact .inl hclass
  · next hclass => exact .inr hclass
  · cases h

theorem ne_nil_of_problem {isKnown : Bool} {code : List Char} {p : Problem}
    (h : problem? isKnown code = some p) : code ≠ [] := by
  rintro rfl
  rcases classify_of_problem h with hclass | hclass <;> exact absurd hclass (by decide)

/-- A command with a problem is reported, and does no more than set up the machine. -/
theorem readCommand_of_problem {st : State} {code : List Char} (line : Nat) (text : List Char)
    {p : Problem} (h : problem? st.spindle.isSome code = some p) :
    st.readCommand line text code =
      { st.report line text p with isSetUp := st.isSetUp || isSetup code } := by
  rw [problem?] at h
  rw [readCommand]
  split at h
  · next hclass =>
    split at h
    · cases h
    · next haxes =>
      obtain rfl := Option.some.inj h
      have hread : st.readProbe line text code = st.report line text .notOneAxis := by
        rw [readProbe]
        split
        · next hentries => simp [hentries] at haxes
        · rfl
      simp only [hclass, hread]
      rfl
  · next hclass =>
    split at h
    · next hinfinite =>
      obtain rfl := Option.some.inj h
      simp only [Bool.and_eq_true, Bool.not_eq_true', Option.isSome_eq_false_iff,
        Option.isNone_iff_eq_none, Option.any_eq_true] at hinfinite
      obtain ⟨hunknown, speed, hspeed, hinf⟩ := hinfinite
      have hnone : truncate? speed = none := by
        rw [← Option.isNone_iff_eq_none, isNone_truncate?_speed hspeed, hinf]
      have hread : st.readSpindle line text code = st.report line text .infiniteSpeed := by
        simp only [readSpindle, hunknown, hspeed, hnone]
      simp only [hclass, hread]
      rfl
    · cases h
  · cases h

theorem isCommandLine_of_problem {isKnown : Bool} {line : List Char} {p : Problem}
    (h : problem? isKnown (lineCode line) = some p) :
    isCommandLine line = true ∧ lineCode line = code (trim line) := by
  have hne := ne_nil_of_problem h
  rw [lineCode] at hne ⊢
  split at hne
  · next hline => exact ⟨hline, if_pos hline⟩
  · exact absurd rfl hne

theorem markOf_of_problem {isKnown : Bool} {line : List Char} {p : Problem}
    (h : problem? isKnown (lineCode line) = some p) : markOf line = .ends := by
  obtain ⟨hline, hcode⟩ := isCommandLine_of_problem h
  cases hmark : markOf line with
  | ends => rfl
  | passes => simp [isCommandLine_eq, hmark] at hline
  | clears =>
      have hdwell := (isCommandLine_of_clears hmark).2
      rw [← hcode] at hdwell
      rcases classify_of_problem h with hclass | hclass <;> simp [hclass] at hdwell

/-- A line with a problem has no part in a run. -/
theorem eq_free_of_problem {role : Role} {isKnown : Bool} {line : List Char} {p : Problem}
    (hrole : role ≠ .free → markOf line = .clears) (h : problem? isKnown (lineCode line) = some p) :
    role = .free := by
  by_contra hne
  have hmark := hrole hne
  rw [markOf_of_problem h] at hmark
  cases hmark

/-- A line with a problem is reported, and does no more than set up the machine. -/
theorem readLine_of_problem {st : State} {line : List Char} {p : Problem} (index : Nat)
    (h : problem? st.spindle.isSome (lineCode line) = some p) :
    st.readLine index .free line =
      { st.report (index + 1) (trim line) p with
        isSetUp := st.isSetUp || isSetup (code (trim line)) } := by
  obtain ⟨hline, hcode⟩ := isCommandLine_of_problem h
  rw [hcode] at h
  rw [readLine_of_command st index .free hline]
  simp only [List.isEmpty_iff, if_neg (ne_nil_of_problem h)]
  exact readCommand_of_problem _ _ h

section Program

variable (lines : List (List Char))

/-- The spindle speed that is known before a line: the first that one of the lines before sets. -/
def speedTo (k : Nat) : Option Int := (lines.take k).findSome? fun line => setSpeed? (lineCode line)

def problemAt? (k : Nat) : Option LineProblem :=
  lines[k]?.bind fun line =>
    (problem? (speedTo lines k).isSome (lineCode line)).map (⟨k + 1, trim line, ·⟩)

def problemsTo (k : Nat) : List LineProblem := (List.range k).filterMap (problemAt? lines)

def problemLines : List LineProblem := problemsTo lines lines.length

variable {lines}

theorem problemsTo_succ (k : Nat) :
    problemsTo lines (k + 1) = problemsTo lines k ++ (problemAt? lines k).toList := by
  rw [problemsTo, problemsTo, List.range_succ, List.filterMap_append]
  cases h : problemAt? lines k <;> simp [h]

theorem spindle_stateAt {k : Nat} (hk : k ≤ lines.length) :
    (stateAt lines k).spindle = speedTo lines k := by
  induction k with
  | zero => rfl
  | succ k ih =>
      have hline := List.getElem?_eq_getElem (show k < lines.length from hk)
      have hnext : (stateAt lines (k + 1)).spindle =
          (stateAt lines k).spindle.or (setSpeed? (lineCode lines[k])) :=
        congrArg Header.spindle (header_stateAt_succ hline)
      rw [hnext, ih (Nat.le_of_succ_le hk), speedTo, speedTo, List.take_add_one,
        List.findSome?_append, hline]
      simp

/-- The problems of the lines before a line are those that are known. -/
theorem problems_stateAt {k : Nat} (hk : k ≤ lines.length) :
    (stateAt lines k).problems = problemsTo lines k := by
  induction k with
  | zero => rfl
  | succ k ih =>
      have hline := List.getElem?_eq_getElem (show k < lines.length from hk)
      have hnext : (stateAt lines (k + 1)).problems = (stateAt lines k).problems ++
          ((problem? (stateAt lines k).spindle.isSome (lineCode lines[k])).map
            (⟨k + 1, trim lines[k], ·⟩)).toList :=
        congrArg Header.problems (header_stateAt_succ hline)
      rw [hnext, ih (Nat.le_of_succ_le hk), spindle_stateAt (Nat.le_of_succ_le hk), problemsTo_succ,
        problemAt?, hline, Option.bind_some]

end Program

theorem problems_eq_problemLines (text : String) :
    (read text).problems = problemLines (linesOf text) := by
  rw [problemLines, ← problems_stateAt le_rfl, ← readLines_eq_stateAt]
  exact congrArg Header.problems (header_closeProbe (readLines (linesOf text)))

/-! ### Programs without their problems -/

/-- The command that stands for a line with a problem: it does to the setup of the machine what the
line does, and nothing else. -/
def standIn (line : List Char) : List Char :=
  if isSetup (code (trim line)) then "G53".toList else "M8".toList

section Program

variable (lines : List (List Char))

def mendedLine (k : Nat) (line : List Char) : List Char :=
  if (problemAt? lines k).isSome then standIn line else line

/-- The lines of a program without problems: each line with a problem is replaced. -/
def mendedLines : List (List Char) := lines.mapIdx (mendedLine lines)

end Program

def mended (text : String) : String :=
  String.ofList (['\n'].intercalate (mendedLines (linesOf text)))

theorem linesOf_mended (text : String) : linesOf (mended text) = mendedLines (linesOf text) := by
  rw [linesOf, mended, String.toList_ofList, splitOn_eq]
  refine List.splitOn_intercalate '\n' ?_ ?_
  · intro line hline
    obtain ⟨k, hk, rfl⟩ := List.mem_mapIdx.1 hline
    rw [mendedLine, standIn]
    split
    · split <;> decide
    · exact not_mem_of_mem_splitOn (List.getElem_mem hk)
  · rw [mendedLines, ne_eq, List.mapIdx_eq_nil_iff]
    exact splitOn_ne_nil '\n' text.toList

/-- What stands for a line is a command that is not read, and that sets up the machine if the line
does so. -/
theorem standIn_eq (line : List Char) :
    isCommandLine (standIn line) = true ∧ (code (trim (standIn line))).isEmpty = false ∧
      classify (code (trim (standIn line))) = .other ∧
      isSetup (code (trim (standIn line))) = isSetup (code (trim line)) := by
  rw [standIn]
  cases isSetup (code (trim line)) <;> decide +kernel

theorem markOf_standIn (line : List Char) : markOf (standIn line) = .ends := by
  rw [standIn]
  split <;> decide +kernel

theorem readLine_standIn (st : State) (index : Nat) (line : List Char) :
    st.readLine index .free (standIn line) =
      { st with isSetUp := st.isSetUp || isSetup (code (trim line)) } := by
  obtain ⟨hline, hcode, hclass, hset⟩ := standIn_eq line
  rw [readLine_of_command st index .free hline]
  simp only [hcode, Bool.false_eq_true, if_false, readCommand, hclass, hset]

/-- The mask that shows no problems. -/
def quiet : Mask where
  problem _ := none
  line := id

theorem quiet_report (st : State) (line : Nat) (text : List Char) (p : Problem) :
    quiet.state (st.report line text p) = quiet.state st := by
  rw [Mask.state_report]
  exact congrArg (fun ps => { quiet.state st with problems := ps }) (List.append_nil _)

theorem quiet_reading (r : Reading) : quiet.reading r = { r with problems := [] } := by
  have hassumption : quiet.assumption = id := by
    funext a
    cases a <;> rfl
  have hproblem : r.problems.filterMap quiet.problem = [] := by simp [quiet]
  rw [Mask.reading, hassumption, List.map_id, hproblem]

/-- A result without problems that looks like another one is the other one without its problems. -/
theorem eq_of_quiet_reading {r r' : Reading} (hnone : r.problems = [])
    (h : quiet.reading r = quiet.reading r') : r = { r' with problems := [] } := by
  rw [← quiet_reading, ← h, quiet_reading, ← hnone]

section Program

variable {lines : List (List Char)}

theorem getElem?_mendedLines {k : Nat} {line : List Char} (h : lines[k]? = some line) :
    (mendedLines lines)[k]? = some (mendedLine lines k line) := by
  rw [mendedLines, List.getElem?_mapIdx, h, Option.map_some]

theorem isSome_problemAt? {k : Nat} {line : List Char} (h : lines[k]? = some line) :
    (problemAt? lines k).isSome = (problem? (speedTo lines k).isSome (lineCode line)).isSome := by
  rw [problemAt?, h, Option.bind_some, Option.isSome_map]

theorem markOf_mendedLine {k : Nat} {line : List Char} (h : lines[k]? = some line) :
    markOf (mendedLine lines k line) = markOf line := by
  rw [mendedLine]
  split
  · next hproblem =>
    rw [isSome_problemAt? h] at hproblem
    obtain ⟨p, hp⟩ := Option.isSome_iff_exists.1 hproblem
    rw [markOf_standIn, markOf_of_problem hp]
  · rfl

/-- The lines that stand for others end runs as those do. -/
theorem runs_mendedLines : runs (mendedLines lines) = runs lines := by
  have hmarks : (mendedLines lines).map markOf = lines.map markOf := by
    apply List.ext_getElem?
    intro k
    rw [List.getElem?_map, List.getElem?_map]
    cases hline : lines[k]? with
    | none => rw [mendedLines, List.getElem?_mapIdx, hline, Option.map_none]
    | some line =>
        rw [getElem?_mendedLines hline, Option.map_some, markOf_mendedLine hline, Option.map_some]
  rw [runs, runs, hmarks]

/-- Without its problems a program is read alike, but for the problems. -/
theorem quiet_stateAt {k : Nat} (hk : k ≤ lines.length) :
    quiet.state (stateAt (mendedLines lines) k) = quiet.state (stateAt lines k) := by
  induction k with
  | zero => rfl
  | succ k ih =>
      have hline := List.getElem?_eq_getElem (show k < lines.length from hk)
      have hbefore := ih (Nat.le_of_succ_le hk)
      rw [stateAt_succ hline, stateAt_succ (getElem?_mendedLines hline), runs_mendedLines, mendedLine]
      split
      · next hproblem =>
        -- The line with a problem does to the state what stands for it does, once problems are
        -- hidden.
        rw [isSome_problemAt? hline, ← spindle_stateAt (Nat.le_of_succ_le hk)] at hproblem
        obtain ⟨p, hp⟩ := Option.isSome_iff_exists.1 hproblem
        rw [eq_free_of_problem (clears_of_roleOf hline) hp, readLine_standIn, readLine_of_problem k hp]
        exact Mask.setUp_congr (hbefore.trans (quiet_report _ _ _ p).symm) _
      · exact Mask.readLine_congr hbefore (.refl _) ⟨rfl, fun _ => rfl⟩ _

theorem length_mendedLines : (mendedLines lines).length = lines.length := List.length_mapIdx

theorem problemLines_mendedLines : problemLines (mendedLines lines) = [] := by
  rw [problemLines, problemsTo, List.filterMap_eq_nil_iff, length_mendedLines]
  intro k hk
  rw [List.mem_range] at hk
  have hline := List.getElem?_eq_getElem hk
  -- A start of the spindle is a problem only as long as no speed is known, so the speeds must
  -- agree.
  have hspeed : speedTo (mendedLines lines) k = speedTo lines k := by
    have hspindle := congrArg State.spindle (quiet_stateAt hk.le)
    rwa [← spindle_stateAt hk.le, ← spindle_stateAt (hk.le.trans_eq length_mendedLines.symm)]
  rw [problemAt?, getElem?_mendedLines hline, Option.bind_some, hspeed, Option.map_eq_none_iff,
    mendedLine]
  split
  · obtain ⟨hline, -, hclass, -⟩ := standIn_eq lines[k]
    simp [lineCode, hline, problem?, hclass]
  · next hnone =>
    rwa [isSome_problemAt? hline, Option.not_isSome_iff_eq_none] at hnone

end Program

/-- Problems are exact and isolated.  The problems that are read are those of the lines of the
program, and without them the program is read alike and has none.  No step and no probe operation
that is read is one that the check of its fields would turn down. -/
theorem problems_read (text : String) :
    (read text).problems = problemLines (linesOf text) ∧
      read (mended text) = { read text with problems := [] } ∧
      (∀ m ∈ moveLines (linesOf text), m.2.Passes) ∧ ∀ p ∈ (read text).probes, p.Passes := by
  refine ⟨problems_eq_problemLines text, ?_, fun m => passes_of_mem_moveLines,
    fun p => passes_of_mem_probes⟩
  have hnone : (read (mended text)).problems = [] := by
    rw [problems_eq_problemLines, linesOf_mended, problemLines_mendedLines]
  have hquiet : quiet.reading (read (mended text)) = quiet.reading (read text) := by
    rw [read, read, linesOf_mended, readLines_eq_stateAt, readLines_eq_stateAt, length_mendedLines,
      ← Mask.reading_state, ← Mask.reading_state, Mask.state_closeProbe, Mask.state_closeProbe,
      quiet_stateAt le_rfl]
  exact eq_of_quiet_reading hnone hquiet

/-- A line with two axes is a problem; one with one axis is none. -/
example : problemLines (linesOf "G38.2 X1 Y2\nG38.2 Z-5") =
    [⟨1, "G38.2 X1 Y2".toList, .notOneAxis⟩] := by
  decide +kernel

end Program

end TouchProbe
