import TouchProbe.Proofs.Descriptions
import TouchProbe.Proofs.WriteOnce

/-!
Reading is causal.  A program that goes on is read up to its old end as before, unless its last
command and the first new one are clearing pauses: only then do the new lines change the role of an
old one.  What was known at the old end stays known, so the results agree on it.
-/

namespace TouchProbe.Program

open Text Number State

/-! ### Roles -/

/-- The marks of the lines that are neither blank nor comments. -/
def told (marks : List Mark) : List Mark := marks.filter (· != .passes)

/-- Whether no run of pauses goes on from some marks to others. -/
def ArePartedMarks (before after : List Mark) : Prop :=
  (told before).getLast? = some .clears → (told after).head? ≠ some .clears

theorem pausesAhead_eq_zero {marks : List Mark} (h : (told marks).head? ≠ some .clears) :
    pausesAhead marks = 0 := by
  induction marks with
  | nil => rfl
  | cons mark rest ih =>
      cases mark with
      | clears => exact absurd rfl h
      | passes => exact ih h
      | ends => rfl

/-- The pauses ahead end before the new marks, unless none of those in between ends a run. -/
theorem pausesAhead_append {before after : List Mark}
    (h : .ends ∉ before → pausesAhead after = 0) :
    pausesAhead (before ++ after) = pausesAhead before := by
  induction before with
  | nil => exact h List.not_mem_nil
  | cons mark rest ih =>
      cases mark with
      | clears =>
          have hrest := ih fun hends => h (by simpa using hends)
          rw [List.cons_append, pausesAhead, pausesAhead, hrest]
      | passes => exact ih fun hends => h (by simpa using hends)
      | ends => rfl

theorem getLast?_told {rest : List Mark} (h : .ends ∉ rest) :
    (told (.clears :: rest)).getLast? = some .clears := by
  have hall : ∀ mark ∈ told (.clears :: rest), mark = .clears := by
    intro mark hmark
    obtain ⟨hmem, hpasses⟩ := List.mem_filter.1 hmark
    rcases List.mem_cons.1 hmem with rfl | hmem
    · rfl
    · cases mark with
      | clears => rfl
      | passes => cases hpasses
      | ends => exact absurd hmem h
  have hne : told (.clears :: rest) ≠ [] := List.cons_ne_nil _ _
  rw [List.getLast?_eq_some_getLast hne, hall _ (List.getLast_mem hne)]

theorem ArePartedMarks.tail {mark : Mark} {rest after : List Mark}
    (h : ArePartedMarks (mark :: rest) after) : ArePartedMarks rest after := by
  intro hlast
  apply h
  rw [told, List.filter_cons]
  split
  · rw [List.getLast?_cons, ← told, hlast]
    rfl
  · exact hlast

/-- New marks do not change the roles of the old ones. -/
theorem rolesFrom_append {before after : List Mark} (h : ArePartedMarks before after) (inRun : Bool) :
    rolesFrom inRun before <+: rolesFrom inRun (before ++ after) := by
  induction before generalizing inRun with
  | nil => exact List.nil_prefix
  | cons mark rest ih =>
      cases mark with
      | clears =>
          -- Only the first pause of a run looks ahead, and it counts pauses up to the first line
          -- that ends the run.
          have hahead : pausesAhead (rest ++ after) = pausesAhead rest :=
            pausesAhead_append fun hends => pausesAhead_eq_zero (h (getLast?_told hends))
          rw [List.cons_append, rolesFrom, rolesFrom, pauseRole, pauseRole, hahead,
            List.cons_prefix_cons]
          exact ⟨rfl, ih h.tail true⟩
      | passes => exact (List.cons_prefix_cons).2 ⟨rfl, ih h.tail inRun⟩
      | ends => exact (List.cons_prefix_cons).2 ⟨rfl, ih h.tail false⟩

/-! ### States -/

/-- Whether the last command of some lines and the first of others are not both clearing pauses. -/
def ArePausesParted (before after : List (List Char)) : Prop :=
  ¬ ((before.filter isCommandLine).getLast?.any isClearing = true ∧
    (after.filter isCommandLine).head?.any isClearing = true)

theorem told_map_markOf (lines : List (List Char)) :
    told (lines.map markOf) = (lines.filter isCommandLine).map markOf := by
  rw [told, List.filter_map]
  congr 2
  funext line
  exact (isCommandLine_eq line).symm

theorem isClearing_of_clears {line : List Char} (h : markOf line = .clears) :
    isClearing line = true := by
  simp only [markOf] at h
  split at h
  · cases h
  · split at h
    · next hclears => simpa only [isClearing, trim_trim] using hclears
    · cases h

theorem ArePausesParted.marks {before after : List (List Char)} (h : ArePausesParted before after) :
    ArePartedMarks (before.map markOf) (after.map markOf) := by
  intro hlast hhead
  rw [told_map_markOf, List.getLast?_map] at hlast
  rw [told_map_markOf, List.head?_map] at hhead
  obtain ⟨last, hlast, hclears⟩ := Option.map_eq_some_iff.1 hlast
  obtain ⟨first, hfirst, hclears'⟩ := Option.map_eq_some_iff.1 hhead
  refine h ⟨?_, ?_⟩
  · rw [hlast]
    exact isClearing_of_clears hclears
  · rw [hfirst]
    exact isClearing_of_clears hclears'

section Append

variable {before after : List (List Char)} (h : ArePausesParted before after)

include h

theorem roleOf_runs_append {k : Nat} (hk : k < before.length) :
    roleOf (runs (before ++ after)) k = roleOf (runs before) k := by
  have hk' : k < (before ++ after).length := by
    rw [List.length_append]
    omega
  have hroles := rolesFrom_append h.marks false
  rw [← List.map_append] at hroles
  obtain ⟨roles, hroles⟩ := hroles
  have hrole := getElem?_rolesFrom hk'
  rw [← hroles, List.getElem?_append_left (by rwa [length_rolesFrom, List.length_map]),
    getElem?_rolesFrom hk] at hrole
  exact (Option.some.inj hrole).symm

/-- Up to the old end a program that goes on is read as before. -/
theorem stateAt_append {k : Nat} (hk : k ≤ before.length) :
    stateAt (before ++ after) k = stateAt before k := by
  induction k with
  | zero => rfl
  | succ k ih =>
      have hline := List.getElem?_eq_getElem (show k < before.length from hk)
      have hline' : (before ++ after)[k]? = some before[k] := by
        rw [List.getElem?_append_left hk, hline]
      rw [stateAt_succ hline, stateAt_succ hline', ih (Nat.le_of_succ_le hk), roleOf_runs_append h hk]

end Append

/-! ### Results -/

theorem linesOf_append (a b : String) : linesOf (a ++ "\n" ++ b) = linesOf a ++ linesOf b := by
  have hnewline : "\n".toList = ['\n'] := rfl
  rw [linesOf, String.toList_append, String.toList_append, hnewline, List.append_assoc,
    List.singleton_append, splitOn_append_sep]
  rfl

/-- Whether a line of a program tells where the machine starts along an axis. -/
def TellsStart (lines : List (List Char)) (a : Axis) : Prop :=
  ∃ k line, lines[k]? = some line ∧
    a ∈ ((stateAt lines k).setStart (lineCode line)).map (·.1)

/-- What the result of a program keeps when the program goes on: the values of the head that are
known, the problems, the closed probes, and of the last probe what it was opened with. -/
structure Reading.GoesOn (r r' : Reading) : Prop where
  units : ∀ u, r.units = some u → r'.units = some u
  spindle : ∀ n, r.spindle = some n → r'.spindle = some n
  dwells : ∀ n, r.dwells = some n → r'.dwells = some n
  problems : r.problems <+: r'.problems
  closed : r.probes.dropLast <+: r'.probes
  last : ∀ p, r.probes.getLast? = some p → ∃ p', r'.probes[r.probes.length - 1]? = some p' ∧
    p'.approach = p.approach ∧ p'.preMoves = p.preMoves

theorem read_eq (text : String) :
    read text = (stateAt (linesOf text) (linesOf text).length).closeProbe.reading := by
  rw [read, readLines_eq_stateAt]

/-- Results agree where the states before the last probe was closed do. -/
theorem goesOn_reading {st st' : State} (hkeeps : st.Keeps st') (hprobes : st.probes <+: st'.probes)
    (hopenings : st.openings <+: st'.openings) :
    st.closeProbe.reading.GoesOn st'.closeProbe.reading := by
  have hclosed : st.closeProbe.Keeps st'.closeProbe :=
    (State.Keeps.of_eq (header_closeProbe st).symm).trans
      (hkeeps.trans (.of_eq (header_closeProbe st')))
  constructor
  · exact hclosed.units
  · exact hclosed.spindle
  · exact hclosed.dwells
  · exact hclosed.problems
  · -- At most one probe is open, so the probe that is left out is the one that is closed last.
    have hdrop : st.closeProbe.probes.dropLast <+: st.probes := by
      rw [probes_closeProbe]
      cases st.current with
      | none => simpa using List.dropLast_prefix st.probes
      | some p => simp
    have hadd : st'.probes <+: st'.closeProbe.probes := by
      rw [probes_closeProbe]
      exact List.prefix_append _ _
    exact hdrop.trans (hprobes.trans hadd)
  · intro p hp
    have hp' : (st.closeProbe.probes.map Probe.opening)[st.closeProbe.probes.length - 1]? =
        some p.opening := by
      rw [List.getElem?_map, ← List.getLast?_eq_getElem?]
      exact congrArg (Option.map Probe.opening) hp
    rw [← openings_closeProbe, ← openings_closeProbe] at hopenings
    obtain ⟨rest, hrest⟩ := hopenings
    have hlast : (st'.closeProbe.probes.map Probe.opening)[st.closeProbe.probes.length - 1]? =
        some p.opening := by
      rw [← hrest, List.getElem?_append_left (List.getElem?_eq_some_iff.1 hp').1, hp']
    rw [List.getElem?_map] at hlast
    obtain ⟨p', hp', hopening⟩ := Option.map_eq_some_iff.1 hlast
    obtain ⟨happroach, hmoves⟩ := Prod.mk.inj hopening
    exact ⟨p', hp', happroach, hmoves⟩

/-! ### The start of the machine -/

/-- A line that tells where the machine starts along an axis makes it known. -/
theorem TellsStart.exists_get? {lines : List (List Char)} {a : Axis} (h : TellsStart lines a) :
    ∃ v, (stateAt lines lines.length).start.get? a = some v := by
  obtain ⟨k, line, hline, ha⟩ := h
  obtain ⟨e, he, rfl⟩ := List.mem_map.1 ha
  have hstart : (stateAt lines (k + 1)).start =
      (stateAt lines k).start.fill ((stateAt lines k).setStart (lineCode line)) :=
    congrArg Header.start (header_stateAt_succ hline)
  have hnamed : (((stateAt lines k).setStart (lineCode line)).lookup e.1).isSome = true := by
    by_contra hnone
    rw [Option.not_isSome_iff_eq_none, List.lookup_eq_none_iff] at hnone
    simpa using hnone e he
  have hafter : ∃ v, (stateAt lines (k + 1)).start.get? e.1 = some v := by
    rw [hstart, ByAxis.get?_fill, ← Option.isSome_iff_exists, Option.isSome_or, hnamed, Bool.or_true]
  -- From that line on the value is kept.
  obtain ⟨v, hv⟩ := hafter
  exact ⟨v, (keeps_stateAt (List.getElem?_eq_some_iff.1 hline).1).start _ v hv⟩

theorem start_closeProbe (st : State) : st.closeProbe.reading.start = startPosition st.start := by
  rw [closeProbe]
  split <;> rfl

theorem startPosition_of_get? {vs : ByAxis Float} {a : Axis} {v : Float} (h : vs.get? a = some v) :
    ∃ p, startPosition vs = some p ∧ p.get a = .float v := by
  have hne : vs.isEmpty = false := by
    rw [ByAxis.isEmpty, Bool.eq_false_iff]
    intro hempty
    rw [ByAxis.get?, List.isEmpty_iff.1 hempty] at h
    cases h
  refine ⟨_, by rw [startPosition, hne, if_neg Bool.false_ne_true], ?_⟩
  cases a <;> simp [Position.get, h]

/-- Reading is causal.  When a program goes on, and no run of clearing pauses goes on with it, its
result keeps the values of the head, the problems, all probe operations but the last one, what the
last one was opened with, and the start of the machine along each axis that a line tells. -/
theorem read_append {a b : String} (h : ArePausesParted (linesOf a) (linesOf b)) :
    (read a).GoesOn (read (a ++ "\n" ++ b)) ∧
      ∀ axis, TellsStart (linesOf a) axis → ∃ p p', (read a).start = some p ∧
        (read (a ++ "\n" ++ b)).start = some p' ∧ p'.get axis = p.get axis := by
  have hlen : (linesOf a).length ≤ (linesOf a ++ linesOf b).length := by simp
  have hstate := stateAt_append h (le_refl (linesOf a).length)
  have hkeeps : (stateAt (linesOf a ++ linesOf b) (linesOf a).length).Keeps
      (stateAt (linesOf a ++ linesOf b) (linesOf a ++ linesOf b).length) := keeps_stateAt hlen
  have hprobes := keepsProbes_stateAt hlen (le_refl (linesOf a ++ linesOf b).length)
  -- The state at the old end is that of the whole program there, which keeps it to its own end.
  rw [hstate] at hkeeps hprobes
  rw [read_eq, read_eq, linesOf_append]
  refine ⟨goesOn_reading hkeeps hprobes.1 hprobes.2, fun axis haxis => ?_⟩
  obtain ⟨v, hv⟩ := haxis.exists_get?
  obtain ⟨p, hp, hvalue⟩ := startPosition_of_get? hv
  obtain ⟨p', hp', hvalue'⟩ := startPosition_of_get? (hkeeps.start axis v hv)
  exact ⟨p, p', (start_closeProbe _).trans hp, (start_closeProbe _).trans hp',
    hvalue'.trans hvalue.symm⟩

/-- A program with a start and one probe that goes on with another start and a move. -/
theorem read_append_start :
    ArePausesParted (linesOf "G0 G90 G53 X1\nG38.2 Z-5 F10\nG4 P0.01")
        (linesOf "G0 G90 G53 X2\nG0 X3") ∧
      TellsStart (linesOf "G0 G90 G53 X1\nG38.2 Z-5 F10\nG4 P0.01") .x ∧
      (read "G0 G90 G53 X1\nG38.2 Z-5 F10\nG4 P0.01").GoesOn
        (read "G0 G90 G53 X1\nG38.2 Z-5 F10\nG4 P0.01\nG0 G90 G53 X2\nG0 X3") ∧
      ∃ p p', (read "G0 G90 G53 X1\nG38.2 Z-5 F10\nG4 P0.01").start = some p ∧
        (read "G0 G90 G53 X1\nG38.2 Z-5 F10\nG4 P0.01\nG0 G90 G53 X2\nG0 X3").start = some p' ∧
        p'.get .x = p.get .x := by
  have hparted : ArePausesParted (linesOf "G0 G90 G53 X1\nG38.2 Z-5 F10\nG4 P0.01")
      (linesOf "G0 G90 G53 X2\nG0 X3") := by
    rw [ArePausesParted]
    decide +kernel
  have hstart : TellsStart (linesOf "G0 G90 G53 X1\nG38.2 Z-5 F10\nG4 P0.01") .x :=
    ⟨0, "G0 G90 G53 X1".toList, rfl, by decide +kernel⟩
  obtain ⟨hgoesOn, hkept⟩ := read_append hparted
  exact ⟨hparted, hstart, hgoesOn, hkept .x hstart⟩

end TouchProbe.Program
