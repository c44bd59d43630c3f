import TouchProbe.Proofs.Effects

/-!
Every probe line that names one axis is read as one probe operation, in the order of the lines.  A
probe that has been opened stays the open one until it is closed, and whatever closes it puts it at
the end of the closed ones; so the approaches of the closed probes and of the open one are at every
line those of the probe lines before it.
-/

namespace TouchProbe

open Program

/-- What a probe line determines of a probe operation. -/
structure Approach where
  axis : Axis
  direction : Scalar
  distance : Scalar
  feedRate : Datum

def Probe.approach (p : Probe) : Approach := ⟨p.axis, p.direction, p.distance, p.feedRate⟩

namespace Program

open Text Number State

/-- The approach that a probe line asks for: down its axis when the value is below zero. -/
def ProbeLine.approach (l : ProbeLine) : Approach where
  axis := l.axis
  direction := .int (if l.value < zero then -1 else 1)
  distance := .float l.value.abs
  feedRate := .float (l.feedRate?.getD assumedFeedRate)

def OpenProbe.approach (p : OpenProbe) : Approach := (p.close []).approach

/-- The approaches that are known in a state, of the closed probes and of the open one. -/
def State.approaches (st : State) : List Approach :=
  st.probes.map Probe.approach ++ st.current.toList.map OpenProbe.approach

@[simp] theorem approach_close (p : OpenProbe) (moves : List Step) :
    (p.close moves).approach = p.approach := rfl

theorem approach_asOpened (p : OpenProbe) : p.asOpened.approach = p.approach := rfl

theorem approach_opened (l : ProbeLine) (moves : List Step) :
    (l.opened moves).approach = l.approach := by
  by_cases h : l.value < zero <;>
    simp [OpenProbe.approach, OpenProbe.close, ProbeLine.opened, ProbeLine.approach,
      Probe.approach, h]

theorem approaches_closeProbe (st : State) :
    st.closeProbe.probes.map Probe.approach = st.approaches := by
  rw [probes_closeProbe, approaches, List.map_append, List.map_map]
  rfl

/-- A line adds the approach that it asks for to those that are known. -/
theorem Effect.approaches {st st' : State} {first : Bool} {step : Option Step}
    {l : Option ProbeLine} (h : Effect st st' first step l) :
    st'.approaches = st.approaches ++ l.toList.map ProbeLine.approach := by
  rw [State.approaches, State.approaches]
  cases h with
  | rests probes current pending feeds =>
      have hcurrent : st'.current.map OpenProbe.approach = st.current.map OpenProbe.approach := by
        have hopened := congrArg (Option.map OpenProbe.approach) current
        simpa only [Option.map_map, Function.comp_def, approach_asOpened] using hopened
      rw [probes, ← Option.toList_map, ← Option.toList_map, hcurrent]
      simp
  | adds probes current pending feeds => simp [probes, current]
  | opens probes current pending feeds =>
      simp [probes, current, approach_opened, Function.comp_def]
  | closes isOpen probes current pending feeds => simp [probes, current, isOpen]
  | discards probes current pending feeds => simp [probes, current]

/-- A line adds its number to those of the assumed feed rates when it has no feed rate of its
own. -/
theorem Effect.feedLines {st st' : State} {first : Bool} {step : Option Step}
    {l : Option ProbeLine} (h : Effect st st' first step l) :
    st'.feedLines = st.feedLines ++
      (l.toList.filter fun l => l.feedRate?.isNone).map fun l => l.index + 1 := by
  cases h with
  | opens probes current pending feeds =>
      rename_i l
      cases hfeed : l.feedRate? <;> simp [feeds, hfeed]
  | rests probes current pending feeds => simp [feeds]
  | adds probes current pending feeds => simp [feeds]
  | closes isOpen probes current pending feeds => simp [feeds]
  | discards probes current pending feeds => simp [feeds]

section Program

variable (lines : List (List Char))

def approachLinesTo (k : Nat) : List ProbeLine := (List.range k).filterMap (probeLineAt? lines)

/-- The probe lines of a program: the lines of commands that probe and name one axis. -/
def approachLines : List ProbeLine := approachLinesTo lines lines.length

variable {lines}

theorem approachLinesTo_succ (k : Nat) :
    approachLinesTo lines (k + 1) = approachLinesTo lines k ++ (probeLineAt? lines k).toList := by
  rw [approachLinesTo, approachLinesTo, List.range_succ, List.filterMap_append]
  cases h : probeLineAt? lines k <;> simp [h]

theorem approaches_stateAt {k : Nat} (hk : k ≤ lines.length) :
    (stateAt lines k).approaches = (approachLinesTo lines k).map ProbeLine.approach := by
  induction k with
  | zero => rfl
  | succ k ih =>
      rw [(effect_stateAt hk).approaches, ih (Nat.le_of_succ_le hk), approachLinesTo_succ,
        List.map_append]

theorem feedLines_stateAt {k : Nat} (hk : k ≤ lines.length) :
    (stateAt lines k).feedLines =
      ((approachLinesTo lines k).filter fun l => l.feedRate?.isNone).map fun l => l.index + 1 := by
  induction k with
  | zero => rfl
  | succ k ih =>
      rw [(effect_stateAt hk).feedLines, ih (Nat.le_of_succ_le hk), approachLinesTo_succ,
        List.filter_append, List.map_append]

theorem index_of_probeLine? {index : Nat} {line : List Char} {l : ProbeLine}
    (h : probeLine? index line = some l) : l.index = index := by
  rw [probeLine?] at h
  split at h
  · split at h
    · exact (Option.some.inj h) ▸ rfl
    · cases h
  · cases h

theorem index_of_probeLineAt? {k : Nat} {l : ProbeLine} (h : probeLineAt? lines k = some l) :
    l.index = k := by
  obtain ⟨line, -, hline⟩ := Option.bind_eq_some_iff.1 h
  exact index_of_probeLine? hline

theorem mem_approachLinesTo {k : Nat} {l : ProbeLine} :
    l ∈ approachLinesTo lines k ↔ l.index < k ∧ probeLineAt? lines l.index = some l := by
  rw [approachLinesTo, List.mem_filterMap]
  constructor
  · rintro ⟨i, hi, hl⟩
    rw [index_of_probeLineAt? hl]
    exact ⟨List.mem_range.1 hi, hl⟩
  · rintro ⟨hlt, hl⟩
    exact ⟨l.index, List.mem_range.2 hlt, hl⟩

/-- No line is two probe lines. -/
theorem pairwise_index_approachLinesTo (k : Nat) :
    (approachLinesTo lines k).Pairwise fun l l' => l.index < l'.index := by
  refine List.pairwise_lt_range.filterMap _ fun i j hij l hl l' hl' => ?_
  rw [index_of_probeLineAt? hl, index_of_probeLineAt? hl']
  exact hij

end Program

theorem count_feedRate (assumptions : List Assumption) (line : Nat) :
    assumptions.count (.feedRate line) =
      (assumptions.filterMap Assumption.feedLine?).count line := by
  induction assumptions with
  | nil => rfl
  | cons a assumptions ih =>
      cases a with
      | feedRate n =>
          by_cases hn : n = line
          · subst hn
            simp [Assumption.feedLine?, ih]
          · simp [Assumption.feedLine?, ih, hn]
      | backoff n =>
          rw [List.count_cons_of_ne (by simp), ih]
          rfl

theorem feedLines_read (text : String) :
    (read text).assumptions.filterMap Assumption.feedLine? =
      ((approachLines (linesOf text)).filter fun l => l.feedRate?.isNone).map fun l => l.index + 1 := by
  rw [approachLines, ← feedLines_stateAt le_rfl, ← readLines_eq_stateAt, ← feedLines_closeProbe]
  rfl

/-- A program is read as one probe operation for each of its probe lines, in their order, each with
the approach of its line; a feed rate is assumed once for a probe line without one. -/
theorem approaches_read (text : String) :
    (read text).probes.map Probe.approach = (approachLines (linesOf text)).map ProbeLine.approach ∧
      ∀ l ∈ approachLines (linesOf text), (read text).assumptions.count (.feedRate (l.index + 1)) =
        if l.feedRate?.isNone then 1 else 0 := by
  constructor
  · rw [approachLines, ← approaches_stateAt le_rfl, ← readLines_eq_stateAt, ← approaches_closeProbe]
    rfl
  · intro l hl
    have hnodup : ((approachLines (linesOf text)).map fun l => l.index + 1).Nodup := by
      rw [List.nodup_iff_pairwise_ne, List.pairwise_map]
      exact (pairwise_index_approachLinesTo _).imp fun h => by omega
    rw [count_feedRate, feedLines_read]
    split
    · next hnone =>
      apply List.count_eq_one_of_mem ((List.filter_sublist.map _).nodup hnodup)
      exact List.mem_map.2 ⟨l, List.mem_filter.2 ⟨hl, hnone⟩, rfl⟩
    · next hsome =>
      apply List.count_eq_zero_of_not_mem
      intro hmem
      -- The line would be that of another probe line, but no two of them share a line.
      obtain ⟨l', hl', hindex⟩ := List.mem_map.1 hmem
      obtain ⟨hl', hnone⟩ := List.mem_filter.1 hl'
      rw [List.inj_on_of_nodup_map hnodup hl' hl hindex] at hnone
      exact hsome hnone

end Program

end TouchProbe
