import TouchProbe.Proofs.Headers
import TouchProbe.Proofs.ProbeLines

/-!
What a line makes known stays known.  The values of the head of a program are set once, problems and
closed probes are only added, and a probe keeps the approach and the moves before it that it was
opened with.  One line does no more than that, and so do many.
-/

namespace TouchProbe

namespace ByAxis

variable {α : Type}

/-- Filling gives an axis the first value that the entries have for it, unless it has one. -/
theorem get?_fill (vs : ByAxis α) (es : List (Axis × α)) (a : Axis) :
    (vs.fill es).get? a = (vs.get? a).or (es.lookup a) := by
  induction es generalizing vs with
  | nil => simp [fill]
  | cons e es ih =>
      have hfill : vs.fill (e :: es) =
          (if (vs.get? e.1).isSome then vs else vs.set e.1 e.2).fill es := rfl
      obtain ⟨b, v⟩ := e
      rw [hfill, ih, List.lookup_cons]
      by_cases hab : a = b
      · subst hab
        cases h : vs.get? a <;> simp [h, get?_set]
      · have hother : (if (vs.get? b).isSome then vs else vs.set b v).get? a = vs.get? a := by
          split
          · rfl
          · rw [get?_set, if_neg hab]
        simp [hother, beq_false_of_ne hab]

end ByAxis

/-- What a probe operation has from its opening: its approach and the moves before it. -/
def Probe.opening (p : Probe) : Approach × List Step := (p.approach, p.preMoves)

namespace Program

open Text Number State

/-! ### The head of a program and its problems -/

/-- Whether what is known in a state of the head of a program and of its problems is known in
another. -/
structure State.Keeps (st st' : State) : Prop where
  units : ∀ u ∈ st.units, u ∈ st'.units
  spindle : ∀ n ∈ st.spindle, n ∈ st'.spindle
  dwells : ∀ n ∈ st.dwells, n ∈ st'.dwells
  setupEnd : ∀ n ∈ st.setupEnd, n ∈ st'.setupEnd
  start : ∀ a, ∀ v ∈ st.start.get? a, v ∈ st'.start.get? a
  problems : st.problems <+: st'.problems

namespace State.Keeps

theorem of_eq {st st' : State} (h : st'.header = st.header) : st.Keeps st' := by
  simp only [header, Header.mk.injEq] at h
  obtain ⟨units, spindle, dwells, start, problems, -, setupEnd⟩ := h
  constructor
  · exact fun u hu => units ▸ hu
  · exact fun n hn => spindle ▸ hn
  · exact fun n hn => dwells ▸ hn
  · exact fun n hn => setupEnd ▸ hn
  · exact fun a v hv => start ▸ hv
  · exact problems ▸ List.prefix_rfl

theorem refl (st : State) : st.Keeps st := .of_eq rfl

theorem trans {st st' st'' : State} (h : st.Keeps st') (h' : st'.Keeps st'') : st.Keeps st'' where
  units u hu := h'.units u (h.units u hu)
  spindle n hn := h'.spindle n (h.spindle n hn)
  dwells n hn := h'.dwells n (h.dwells n hn)
  setupEnd n hn := h'.setupEnd n (h.setupEnd n hn)
  start a v hv := h'.start a v (h.start a v hv)
  problems := h.problems.trans h'.problems

end State.Keeps

theorem mem_or_of_mem {α : Type} {a : α} {o : Option α} (h : a ∈ o) (o' : Option α) :
    a ∈ o.or o' := Option.or_eq_some_iff.2 (.inl h)

/-- A line keeps what is known: it sets only values that are not known yet, and adds problems. -/
theorem keeps_stateAt_succ {lines : List (List Char)} {k : Nat} {line : List Char}
    (h : lines[k]? = some line) : (stateAt lines k).Keeps (stateAt lines (k + 1)) := by
  have hnext := header_stateAt_succ h
  simp only [header, commanded, Header.mk.injEq] at hnext
  obtain ⟨units, spindle, dwells, start, problems, -, setupEnd⟩ := hnext
  constructor
  · exact fun u hu => units ▸ mem_or_of_mem hu _
  · exact fun n hn => spindle ▸ mem_or_of_mem hn _
  · exact fun n hn => dwells ▸ mem_or_of_mem hn _
  · intro n hn
    rw [setupEnd]
    split
    · exact mem_or_of_mem hn _
    · exact hn
  · intro a v hv
    rw [start, ByAxis.get?_fill]
    exact mem_or_of_mem hv _
  · exact problems ▸ List.prefix_append _ _

/-! ### Probes -/

def OpenProbe.opening (p : OpenProbe) : Approach × List Step := (p.close []).opening

/-- The openings that are known in a state, of the closed probes and of the open one. -/
def State.openings (st : State) : List (Approach × List Step) :=
  st.probes.map Probe.opening ++ st.current.toList.map OpenProbe.opening

theorem openings_closeProbe (st : State) :
    st.closeProbe.probes.map Probe.opening = st.openings := by
  rw [probes_closeProbe, openings, List.map_append, List.map_map]
  rfl

/-- A line keeps the closed probes, and the openings of all. -/
theorem Effect.keepsProbes {st st' : State} {first : Bool} {step : Option Step}
    {l : Option ProbeLine} (h : Effect st st' first step l) :
    st.probes <+: st'.probes ∧ st.openings <+: st'.openings := by
  rw [State.openings, State.openings]
  cases h with
  | rests probes current pending feeds =>
      -- The open probe may have got an offset or a retreat, which are no part of its opening.
      have hcurrent : st'.current.map OpenProbe.opening = st.current.map OpenProbe.opening := by
        have hopened := congrArg (Option.map OpenProbe.opening) current
        rwa [Option.map_map, Option.map_map] at hopened
      rw [probes, ← Option.toList_map, ← Option.toList_map, hcurrent]
      exact ⟨List.prefix_rfl, List.prefix_rfl⟩
  | adds probes current pending feeds =>
      rw [probes, current]
      exact ⟨List.prefix_rfl, List.prefix_rfl⟩
  | opens probes current pending feeds =>
      rw [probes, List.map_append, List.map_map]
      exact ⟨List.prefix_append _ _, List.prefix_append _ _⟩
  | closes isOpen probes current pending feeds =>
      rw [probes, isOpen, List.map_append]
      exact ⟨List.prefix_append _ _, List.prefix_append _ _⟩
  | discards probes current pending feeds =>
      rw [probes, current]
      exact ⟨List.prefix_rfl, List.prefix_rfl⟩

/-! ### Many lines -/

section Program

variable {lines : List (List Char)} {j k : Nat}

theorem keeps_stateAt (h : j ≤ k) : (stateAt lines j).Keeps (stateAt lines k) := by
  induction k, h using Nat.le_induction with
  | base => exact .refl _
  | succ k hjk ih =>
      cases hline : lines[k]? with
      | some line => exact ih.trans (keeps_stateAt_succ hline)
      | none =>
          -- After the last line there is nothing more to read.
          rw [stateAt, hline]
          exact ih

theorem keepsProbes_stateAt (h : j ≤ k) (hk : k ≤ lines.length) :
    (stateAt lines j).probes <+: (stateAt lines k).probes ∧
      (stateAt lines j).openings <+: (stateAt lines k).openings := by
  induction k, h using Nat.le_induction with
  | base => exact ⟨List.prefix_rfl, List.prefix_rfl⟩
  | succ k hjk ih =>
      have hbefore := ih (Nat.le_of_succ_le hk)
      have hline := (effect_stateAt hk).keepsProbes
      exact ⟨hbefore.1.trans hline.1, hbefore.2.trans hline.2⟩

end Program

end Program

end TouchProbe
