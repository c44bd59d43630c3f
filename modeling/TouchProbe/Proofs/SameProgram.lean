import TouchProbe.Proofs.Reread

/-!
What a program shows of a sequence.  A number is shown by its word, a step by its line, and a probe
operation by its axis, its sign, four words and the lines of its steps.  Sequences that agree in all
of this have the same program, whatever else they differ in.
-/

namespace TouchProbe.Program

open Text Number

/-! ### Numbers -/

theorem writeFloat_settled (x : Float) : writeFloat (settled x) = writeFloat x := by
  cases hz : isZero x with
  | false => rw [settled, hz, if_neg Bool.false_ne_true]
  | true =>
      obtain ⟨negative, hparts⟩ := isZero_iff.1 hz
      apply String.toList_injective
      rw [settled, hz, if_pos rfl, toList_writeFloat hparts, toList_writeFloat parts_zero]
      cases negative <;> rfl

/-! ### Steps -/

/-- Whether two values stand alike on a line: both are numbers or neither is, and the words are the
same. -/
structure SameWord (d e : Datum) : Prop where
  isNumber : d.toNumber.isOk = e.toNumber.isOk
  word : writeNumber d = writeNumber e

theorem axisWords_map {vs : AxisValues} {f : Datum → Datum}
    (h : ∀ e ∈ vs.entries, SameWord (f e.2) e.2) : axisWords (vs.map f) = axisWords vs := by
  rw [axisWords, axisWords]
  change ((vs.entries.map fun e => (e.1, f e.2)).filter _).mapM _ = (vs.entries.filter _).mapM _
  revert h
  generalize vs.entries = es
  intro h
  induction es with
  | nil => rfl
  | cons e es ih =>
      obtain ⟨hnumber, hword⟩ := h e List.mem_cons_self
      have hrest := ih fun d hd => h d (List.mem_cons_of_mem e hd)
      rw [List.map_cons, List.filter_cons, List.filter_cons, hnumber]
      split
      · rw [List.mapM_cons, List.mapM_cons, hword, hrest]
      · exact hrest

/-- A rapid move whose values are replaced by others with the same words keeps its line. -/
theorem stepLine?_rapid_congr {r : Rapid} {vs : AxisValues} (hvs : r.axes = .values vs)
    {f : Datum → Datum} (h : ∀ e ∈ vs.entries, SameWord (f e.2) e.2) (id : Ident) :
    stepLine? (.rapid { r with axes := .values (vs.map f), id }) = stepLine? (.rapid r) := by
  rw [stepLine?, stepLine?, hvs]
  change (do let words ← axisWords (vs.map f); _) = (do let words ← axisWords vs; _)
  rw [axisWords_map h]

theorem stepLine?_dwell_congr {d : Dwell} {time : Scalar} (htruthy : time.isTruthy = d.time.isTruthy)
    (hword : writeNumber (.scalar time) = writeNumber (.scalar d.time)) (id : Ident) :
    stepLine? (.dwell { d with time, id }) = stepLine? (.dwell d) := by
  simp only [stepLine?, htruthy, hword]

theorem movesLines_congr {ms ns : List Step} (h : ms.map stepLine? = ns.map stepLine?)
    (banner : String) : movesLines ms banner = movesLines ns banner := by
  have hempty : ms.isEmpty = ns.isEmpty := by
    have hlength := congrArg List.isEmpty h
    rwa [List.isEmpty_map, List.isEmpty_map] at hlength
  have hlines : ms.mapM stepLine? = ns.mapM stepLine? := by
    have hrun (l : List Step) : (l.map stepLine?).mapM id = l.mapM stepLine? := List.mapM_map
    rw [← hrun ms, h, hrun ns]
  rw [movesLines, movesLines, hempty, hlines]

/-! ### Probe operations -/

/-- Whether two probe operations show alike in a program. -/
structure WritesAs (p q : Probe) : Prop where
  axis : p.axis = q.axis
  forward : p.isForward = q.isForward
  distance : writeNumber (.scalar p.distance) = writeNumber (.scalar q.distance)
  feedRate : writeNumber p.feedRate = writeNumber q.feedRate
  backoff : writeNumber (.scalar p.backoff) = writeNumber (.scalar q.backoff)
  offset : writeNumber p.offset = writeNumber q.offset
  preMoves : p.preMoves.map stepLine? = q.preMoves.map stepLine?
  postMoves : p.postMoves.map stepLine? = q.postMoves.map stepLine?

theorem operationLines_congr {p q : Probe} (h : WritesAs p q) {dwells other : Datum}
    (hdwells : pauseCount dwells = pauseCount other) (number : Nat) :
    operationLines dwells number p = operationLines other number q := by
  have hprobe : probeLines p = probeLines q := by
    rw [probeLines, probeLines, h.axis, h.forward, h.distance, h.feedRate, h.backoff, h.offset]
  rw [operationLines, operationLines, movesLines_congr h.preMoves, movesLines_congr h.postMoves,
    hdwells, hprobe, h.axis]

theorem operations_congr {ops others : List Probe} (h : List.Forall₂ WritesAs ops others)
    {dwells other : Datum} (hdwells : pauseCount dwells = pauseCount other) (number : Nat) :
    ((ops.zipIdx number).mapM fun p => operationLines dwells (p.2 + 1) p.1) =
      (others.zipIdx number).mapM fun p => operationLines other (p.2 + 1) p.1 := by
  induction h generalizing number with
  | nil => rfl
  | cons hp _ ih =>
      rw [List.zipIdx_cons, List.zipIdx_cons, List.mapM_cons, List.mapM_cons, ih (number + 1),
        operationLines_congr hp hdwells]

/-! ### Programs -/

structure HeadsAs (s t : Settings) : Prop where
  start (a : Axis) : writeNumber (s.start.get a) = writeNumber (t.start.get a)
  spindle : writeNumber s.spindle = writeNumber t.spindle
  units : s.units = t.units
  dwells : pauseCount s.dwells = pauseCount t.dwells

/-- Sequences that show alike have the same program. -/
theorem write_congr {ops others : List Probe} {s t : Settings} (hops : List.Forall₂ WritesAs ops others)
    (hsettings : HeadsAs s t) : write ops s = write others t := by
  have hstart : startOrder.mapM (startLine s.start) = startOrder.mapM (startLine t.start) := by
    have hline (a : Axis) : startLine s.start a = startLine t.start a := by
      rw [startLine, startLine, hsettings.start a]
    rw [funext hline]
  have hhead : headLines s = headLines t := by
    rw [headLines, headLines, hstart, hsettings.spindle, hsettings.units]
  rw [write, write, lines, lines, hhead, operations_congr hops hsettings.dwells 0]

end TouchProbe.Program
