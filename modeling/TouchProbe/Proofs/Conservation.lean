import TouchProbe.Proofs.FirstRun
import TouchProbe.Proofs.ProbeLines

/-!
Moves are conserved.  The steps that the lines of a program are read as, in the order of the lines,
are those of the probe operations that are read from it: first the moves before a probe, then those
after it, one operation after the other.  Only two stretches of them may be missing, the moves of
the setup, which the first run of clearing pauses discards, and moves after the last probe was
closed.
-/

namespace TouchProbe.Program

open Text Number State

/-! ### Where moves come from -/

/-- A step with the line that it was read from. -/
abbrev Move := Nat × Step

/-- The line of a probe and the moves before and after it, each with its line. -/
structure Source where
  line : Nat
  preMoves : List Move
  postMoves : List Move

/-- The moves of a probe, in the order in which a machine makes them. -/
def Source.moves (s : Source) : List Move := s.preMoves ++ s.postMoves

/-- Moves before a probe come from lines before its own, and those after it from lines after it. -/
structure Source.IsOrdered (s : Source) : Prop where
  preMoves : ∀ m ∈ s.preMoves, m.1 < s.line
  postMoves : ∀ m ∈ s.postMoves, s.line < m.1

structure Source.Of (s : Source) (p : Probe) : Prop where
  preMoves : p.preMoves = s.preMoves.map Prod.snd
  postMoves : p.postMoves = s.postMoves.map Prod.snd

/-- What has become of the moves that were read: some went to the probes, some are pending, and one
stretch between them may have been dropped. -/
structure Ledger where
  closed : List Source := []
  opened : Option Source := none
  pending : List Move := []
  early : List Move := []
  dropped : List Move := []
  late : List Move := []

namespace Ledger

/-- The probes that were opened, in order. -/
def sources (g : Ledger) : List Source := g.closed ++ g.opened.toList

/-- Whether a ledger is right about a state before a line, given the moves and the probe lines that
were read and the steps that were dropped. -/
structure Tells (g : Ledger) (st : State) (k : Nat) (moves : List Move) (openings : List Nat)
    (dropped : List Step) : Prop where
  closed : List.Forall₂ Source.Of g.closed st.probes
  opened : st.current.map OpenProbe.preMoves = g.opened.map fun s => s.preMoves.map Prod.snd
  fresh : ∀ s ∈ g.opened, s.postMoves = [] ∧ s.line < k ∧ ∀ m ∈ g.pending, s.line < m.1
  pending : st.pending = g.pending.map Prod.snd
  before : ∀ m ∈ g.pending, m.1 < k
  moves : moves = g.early ++ g.dropped ++ g.late ++ g.pending
  shares : g.sources.flatMap Source.moves = g.early ++ g.late
  ordered : ∀ s ∈ g.sources, s.IsOrdered
  lines : g.sources.map Source.line = openings
  dropped : g.dropped.map Prod.snd = dropped

theorem tells_start : Tells {} {} 0 [] [] [] where
  closed := .nil
  opened := rfl
  fresh := by simp
  pending := rfl
  before := by simp
  moves := rfl
  shares := rfl
  ordered := by simp [sources]
  lines := rfl
  dropped := rfl

section Step

variable {g : Ledger} {st st' : State} {k : Nat} {moves : List Move} {openings : List Nat}
  {dropped : List Step} (h : g.Tells st k moves openings dropped)

include h

/-- A line that does nothing to the moves. -/
theorem Tells.rest (hprobes : st'.probes = st.probes)
    (hcurrent : st'.current.map OpenProbe.preMoves = st.current.map OpenProbe.preMoves)
    (hpending : st'.pending = st.pending) : g.Tells st' (k + 1) moves openings dropped where
  closed := hprobes ▸ h.closed
  opened := hcurrent.trans h.opened
  fresh s hs := by
    obtain ⟨hpost, hline, hafter⟩ := h.fresh s hs
    exact ⟨hpost, hline.trans (Nat.lt_succ_self k), hafter⟩
  pending := hpending.trans h.pending
  before m hm := (h.before m hm).trans (Nat.lt_succ_self k)
  moves := h.moves
  shares := h.shares
  ordered := h.ordered
  lines := h.lines
  dropped := h.dropped

/-- The line of a move. -/
theorem Tells.add {step : Step} (hprobes : st'.probes = st.probes)
    (hcurrent : st'.current = st.current) (hpending : st'.pending = st.pending ++ [step]) :
    { g with pending := g.pending ++ [(k, step)] }.Tells st' (k + 1) (moves ++ [(k, step)])
      openings dropped where
  closed := hprobes ▸ h.closed
  opened := hcurrent ▸ h.opened
  fresh s hs := by
    obtain ⟨hpost, hline, hafter⟩ := h.fresh s hs
    refine ⟨hpost, hline.trans (Nat.lt_succ_self k), ?_⟩
    simp only [List.forall_mem_append, List.forall_mem_singleton]
    exact ⟨hafter, hline⟩
  pending := by rw [hpending, h.pending, List.map_append, List.map_singleton]
  before := by
    simp only [List.forall_mem_append, List.forall_mem_singleton]
    exact ⟨fun m hm => (h.before m hm).trans (Nat.lt_succ_self k), Nat.lt_succ_self k⟩
  moves := by rw [h.moves, List.append_assoc]
  shares := h.shares
  ordered := h.ordered
  lines := h.lines
  dropped := h.dropped

/-- A line that opens a probe: the pending moves are those before it. -/
theorem Tells.open {p : OpenProbe}
    (hprobes : st'.probes = st.probes ++ st.current.toList.map fun q => q.close [])
    (hcurrent : st'.current = some p) (hp : p.preMoves = st.pending) (hpending : st'.pending = []) :
    { g with
      closed := g.sources
      opened := some ⟨k, g.pending, []⟩
      pending := []
      late := g.late ++ g.pending }.Tells st' (k + 1) moves (openings ++ [k]) dropped where
  closed := by
    rw [hprobes, sources]
    apply List.rel_append h.closed
    have hopened := h.opened
    cases hs : g.opened with
    | none =>
        rw [hs, Option.map_none, Option.map_eq_none_iff] at hopened
        rw [hopened]
        exact .nil
    | some s =>
        rw [hs, Option.map_some] at hopened
        obtain ⟨q, hq, hpre⟩ := Option.map_eq_some_iff.1 hopened
        have hpost := (h.fresh s hs).1
        rw [hq]
        exact .cons ⟨hpre, by rw [hpost]; rfl⟩ .nil
  opened := by rw [hcurrent, Option.map_some, hp, h.pending, Option.map_some]
  fresh := by simp
  pending := hpending
  before := by simp
  moves := by rw [h.moves, List.append_nil, List.append_assoc]
  shares := by
    rw [sources, List.flatMap_append, h.shares, List.append_assoc]
    simp [Source.moves]
  ordered := by
    rw [sources, List.forall_mem_append]
    refine ⟨h.ordered, ?_⟩
    simp only [Option.toList_some, List.forall_mem_singleton]
    exact ⟨h.before, by simp⟩
  lines := by
    rw [sources, List.map_append, h.lines]
    rfl
  dropped := h.dropped

/-- A line that closes the open probe: the pending moves are those after it. -/
theorem Tells.close {p : OpenProbe} (hopen : st.current = some p)
    (hprobes : st'.probes = st.probes ++ [p.close st.pending]) (hcurrent : st'.current = none)
    (hpending : st'.pending = []) :
    ∃ s, g.opened = some s ∧
      { g with
        closed := g.closed ++ [{ s with postMoves := g.pending }]
        opened := none
        pending := []
        late := g.late ++ g.pending }.Tells st' (k + 1) moves openings dropped := by
  have hopened := h.opened
  rw [hopen, Option.map_some] at hopened
  obtain ⟨s, hs, hpre⟩ := Option.map_eq_some_iff.1 hopened.symm
  obtain ⟨hpost, -, hafter⟩ := h.fresh s hs
  have hsources : g.sources = g.closed ++ [s] := by rw [sources, hs, Option.toList_some]
  have hshares := h.shares
  have hordered := h.ordered
  have hlines := h.lines
  rw [hsources] at hshares hordered hlines
  rw [List.forall_mem_append, List.forall_mem_singleton] at hordered
  refine ⟨s, hs, ?_, ?_, by simp, hpending, by simp, ?_, ?_, ?_, ?_, h.dropped⟩
  · rw [hprobes]
    exact List.rel_append h.closed (.cons ⟨hpre.symm, h.pending⟩ .nil)
  · rw [hcurrent]
    rfl
  · rw [h.moves, List.append_nil, List.append_assoc]
  · rw [List.flatMap_append, List.flatMap_singleton, Source.moves, hpost, List.append_nil] at hshares
    simp only [sources, Option.toList_none, List.append_nil, List.flatMap_append,
      List.flatMap_singleton, Source.moves]
    rw [← List.append_assoc, hshares, List.append_assoc]
  · simp only [sources, Option.toList_none, List.append_nil, List.forall_mem_append,
      List.forall_mem_singleton]
    exact ⟨hordered.1, hordered.2.preMoves, hafter⟩
  · rw [← hlines]
    simp [sources]

/-- The first line of the first run: the moves of the setup are dropped. -/
theorem Tells.discard (hnone : dropped = []) (hprobes : st'.probes = st.probes)
    (hcurrent : st'.current = st.current) (hpending : st.setupMoves ++ st'.pending = st.pending) :
    { g with
      early := g.early ++ g.late
      dropped := g.pending.take st.setupMoves.length
      late := []
      pending := g.pending.drop st.setupMoves.length }.Tells st' (k + 1) moves openings
        st.setupMoves where
  closed := hprobes ▸ h.closed
  opened := hcurrent ▸ h.opened
  fresh s hs := by
    obtain ⟨hpost, hline, hafter⟩ := h.fresh s hs
    exact ⟨hpost, hline.trans (Nat.lt_succ_self k), fun m hm => hafter m (List.mem_of_mem_drop hm)⟩
  pending := by rw [List.map_drop, ← h.pending, ← hpending, List.drop_left]
  before m hm := (h.before m (List.mem_of_mem_drop hm)).trans (Nat.lt_succ_self k)
  moves := by
    -- Nothing was dropped before, so the stretches before and after it are one.
    have hempty : g.dropped = [] := by
      rw [← List.map_eq_nil_iff, h.dropped, hnone]
    rw [h.moves, hempty]
    simp
  shares := by rw [List.append_nil]; exact h.shares
  ordered := h.ordered
  lines := h.lines
  dropped := by rw [List.map_take, ← h.pending, ← hpending, List.take_left]

/-- Whatever a line does, the ledger can be kept. -/
theorem Tells.advance {first : Bool} {step : Option Step} {l : Option ProbeLine}
    (he : Effect st st' first step l) (hl : ∀ l' ∈ l, l'.index = k) (hnone : first = true → dropped = []) :
    ∃ g' : Ledger, g'.Tells st' (k + 1) (moves ++ step.toList.map fun s => (k, s))
      (openings ++ l.toList.map ProbeLine.index) (if first then st.setupMoves else dropped) := by
  cases he with
  | rests probes current pending feeds =>
      -- The retreat and the origin of the open probe may have changed, but not the moves before it.
      have hcurrent := congrArg (Option.map OpenProbe.preMoves) current
      rw [Option.map_map, Option.map_map] at hcurrent
      have hrest := h.rest probes hcurrent pending
      exact ⟨g, by simpa using hrest⟩
  | adds probes current pending feeds =>
      have hadd := h.add probes current pending
      exact ⟨_, by simpa using hadd⟩
  | opens probes current pending feeds =>
      have hopen := h.open probes current rfl pending
      exact ⟨_, by simpa [hl _ rfl] using hopen⟩
  | closes isOpen probes current pending feeds =>
      obtain ⟨s, -, hclose⟩ := h.close isOpen probes current pending
      exact ⟨_, by simpa using hclose⟩
  | discards probes current pending feeds =>
      have hdiscard := h.discard (hnone rfl) probes current pending
      exact ⟨_, by simpa using hdiscard⟩

end Step

end Ledger

/-! ### The moves of a program -/

section Program

variable (lines : List (List Char))

def movesTo (k : Nat) : List Move :=
  (List.range k).filterMap fun i => (moveAt? lines i).map fun s => (i, s)

/-- The moves that the lines of a program are read as, in order. -/
def moveLines : List Move := movesTo lines lines.length

/-- The steps of the setup of a program. -/
def discarded : List Step := discardedTo lines lines.length

/-- The steps that are pending at the end of a program, unless a probe takes them. -/
def leftOver : List Step :=
  if (readLines lines).current.isSome then [] else (readLines lines).pending

variable {lines}

theorem movesTo_succ (k : Nat) :
    movesTo lines (k + 1) = movesTo lines k ++ (moveAt? lines k).toList.map fun s => (k, s) := by
  rw [movesTo, movesTo, List.range_succ, List.filterMap_append]
  cases h : moveAt? lines k <;> simp [h]

theorem mem_movesTo {k : Nat} {m : Move} :
    m ∈ movesTo lines k ↔ m.1 < k ∧ moveAt? lines m.1 = some m.2 := by
  obtain ⟨i, s⟩ := m
  simp [movesTo]

/-- Moves are listed in the order of their lines, no line twice. -/
theorem pairwise_movesTo (k : Nat) :
    (movesTo lines k).Pairwise fun m m' => m.1 < m'.1 := by
  refine List.pairwise_lt_range.filterMap _ fun i j hij m hm m' hm' => ?_
  obtain ⟨s, -, rfl⟩ := Option.map_eq_some_iff.1 hm
  obtain ⟨s', -, rfl⟩ := Option.map_eq_some_iff.1 hm'
  exact hij

/-- A ledger can be kept along the lines of a program. -/
theorem exists_tells {k : Nat} (hk : k ≤ lines.length) :
    ∃ g : Ledger, g.Tells (stateAt lines k) k (movesTo lines k)
      ((approachLinesTo lines k).map ProbeLine.index) (discardedTo lines k) := by
  induction k with
  | zero => exact ⟨{}, Ledger.tells_start⟩
  | succ k ih =>
      obtain ⟨g, hg⟩ := ih (Nat.le_of_succ_le hk)
      obtain ⟨g', hg'⟩ := hg.advance (effect_stateAt hk) (fun l hl => index_of_probeLineAt? hl)
        (discardedTo_of_startsFirst (Nat.le_of_succ_le hk))
      rw [← movesTo_succ, ← List.map_append, ← approachLinesTo_succ,
        ← discardedTo_succ (Nat.le_of_succ_le hk)] at hg'
      exact ⟨g', hg'⟩

end Program

/-- The moves that were read from lines go to the probes, each once and in their order, except for
two stretches: what the first run drops and what is left over. -/
structure Conserves (lines : List (List Char)) (probes : List Probe) (sources : List Source)
    (early dropped late left : List Move) : Prop where
  moves : moveLines lines = early ++ dropped ++ late ++ left
  shares : sources.flatMap Source.moves = early ++ late
  dropped : dropped.map Prod.snd = discarded lines
  left : left.map Prod.snd = leftOver lines
  probes : List.Forall₂ Source.Of sources probes
  lines : sources.map Source.line = (approachLines lines).map ProbeLine.index
  ordered : ∀ s ∈ sources, s.IsOrdered

theorem exists_conserves (text : String) :
    ∃ sources early dropped late left,
      Conserves (linesOf text) (read text).probes sources early dropped late left := by
  obtain ⟨g, hg⟩ := exists_tells (le_refl (linesOf text).length)
  rw [← readLines_eq_stateAt] at hg
  -- The end of the program closes the open probe, as one more line would.
  have heffect := effect_closeProbe (readLines (linesOf text))
  obtain ⟨g', hg'⟩ := hg.advance heffect (by simp) (by simp)
  have hopened := hg'.opened
  rw [current_closeProbe, Option.map_none, eq_comm, Option.map_eq_none_iff] at hopened
  have hsources : g'.sources = g'.closed := by
    rw [Ledger.sources, hopened, Option.toList_none, List.append_nil]
  refine ⟨g'.sources, g'.early, g'.dropped, g'.late, g'.pending, ?_⟩
  constructor
  · simpa [moveLines] using hg'.moves
  · exact hg'.shares
  · simpa [discarded] using hg'.dropped
  · rw [← hg'.pending, leftOver, closeProbe]
    cases h : (readLines (linesOf text)).current <;> simp
  · rw [hsources]
    exact hg'.closed
  · simpa [approachLines] using hg'.lines
  · exact hg'.ordered

/-! ### The use of a line -/

/-- What becomes of a rapid move of a program: it tells where the machine starts, or it is the
retreat of the open probe, or it is a step.  No move has two of these uses, and each leaves the
other parts of the state as they are. -/
inductive RapidUse (lines : List (List Char)) (k : Nat) (text : List Char) : Prop
  | start (starts : (stateAt lines k).isStart (code text) = true)
      (start : (stateAt lines (k + 1)).start =
        (stateAt lines k).start.fill (axes (code text)).entries)
      (current : (stateAt lines (k + 1)).current = (stateAt lines k).current)
      (moves : ∀ s, (k, s) ∉ moveLines lines)
  | retreat {p : OpenProbe} {value : Float}
      (starts : (stateAt lines k).isStart (code text) = false)
      (isOpen : (stateAt lines k).current = some p)
      (axis : (axes (code text)).entries = [(p.axis, value)])
      (current : (stateAt lines (k + 1)).current = some { p with backoff := some value.abs })
      (start : (stateAt lines (k + 1)).start = (stateAt lines k).start)
      (moves : ∀ s, (k, s) ∉ moveLines lines)
  | step (starts : (stateAt lines k).isStart (code text) = false)
      (moves : (k, rapidStep text (code text)) ∈ moveLines lines)
      (start : (stateAt lines (k + 1)).start = (stateAt lines k).start)
      (current : (stateAt lines (k + 1)).current = (stateAt lines k).current)

/-- What a move of a program was read from: a rapid move or a pause outside the runs. -/
inductive MoveLine (lines : List (List Char)) (k : Nat) (line : List Char) : Step → Prop
  | rapid (isRapid : classify (code (trim line)) = .rapid)
      (hasAxes : (axes (code (trim line))).isEmpty = false) :
      MoveLine lines k line (rapidStep (trim line) (code (trim line)))
  | dwell {time : Float} (isDwell : classify (code (trim line)) = .dwell)
      (isFree : roleOf (runs lines) k = .free) (hasTime : pause? (code (trim line)) = some time) :
      MoveLine lines k line (dwellStep (trim line) time)

theorem moveLine_of_mem {lines : List (List Char)} {m : Move} (h : m ∈ moveLines lines) :
    ∃ line, lines[m.1]? = some line ∧ isCommandLine line = true ∧ MoveLine lines m.1 line m.2 := by
  obtain ⟨-, hmove⟩ := mem_movesTo.1 h
  obtain ⟨line, hline, hmove⟩ := Option.bind_eq_some_iff.1 hmove
  refine ⟨line, hline, ?_⟩
  simp only [move?] at hmove
  split at hmove
  · next hguard =>
    simp only [Bool.and_eq_true, beq_iff_eq] at hguard
    refine ⟨hguard.1, ?_⟩
    split at hmove
    · next hclass =>
      split at hmove
      · cases hmove
      · next hother =>
        simp only [Bool.or_eq_true, not_or, Bool.not_eq_true] at hother
        rw [← Option.some.inj hmove]
        exact .rapid hclass hother.1.1
    · next hclass =>
      obtain ⟨time, htime, hstep⟩ := Option.map_eq_some_iff.1 hmove
      rw [← hstep]
      exact .dwell hclass hguard.2 htime
    · cases hmove
  · cases hmove

section Use

variable {lines : List (List Char)} {k : Nat} {line : List Char} (hline : lines[k]? = some line)
  (hcommand : isCommandLine line = true)

include hline

theorem mem_moveLines {s : Step} (h : (stateAt lines k).move? (roleOf (runs lines) k) line = some s) :
    (k, s) ∈ moveLines lines := by
  rw [moveLines, mem_movesTo]
  refine ⟨(List.getElem?_eq_some_iff.1 hline).1, ?_⟩
  rw [moveAt?, hline]
  exact h

theorem not_mem_moveLines (h : (stateAt lines k).move? (roleOf (runs lines) k) line = none)
    (s : Step) : (k, s) ∉ moveLines lines := by
  rw [moveLines, mem_movesTo, moveAt?, hline]
  rintro ⟨-, hs⟩
  rw [Option.bind_some, h] at hs
  cases hs

include hcommand

theorem rapidUse_of_rapid (hclass : classify (code (trim line)) = .rapid)
    (haxes : (axes (code (trim line))).isEmpty = false) : RapidUse lines k (trim line) := by
  have hfree : roleOf (runs lines) k = .free := eq_free_of_rapid (clears_of_roleOf hline) hclass
  have hcode : (code (trim line)).isEmpty = false := by
    rw [Bool.eq_false_iff]
    intro hempty
    rw [List.isEmpty_iff.1 hempty] at hclass
    exact absurd hclass (by decide)
  have hnext := stateAt_succ hline
  rw [readLine_of_command _ k _ hcommand, hfree] at hnext
  simp only [hcode, Bool.false_eq_true, if_false, readCommand, hclass] at hnext
  have hmove : (stateAt lines k).move? (roleOf (runs lines) k) line =
      if (stateAt lines k).isStart (code (trim line)) ||
        ((stateAt lines k).backoff? (code (trim line))).isSome then none
      else some (rapidStep (trim line) (code (trim line))) := by
    rw [hfree]
    simp [move?, hcommand, hclass, haxes]
  simp only [readRapid, haxes, Bool.false_eq_true, if_false] at hnext
  cases hstart : (stateAt lines k).isStart (code (trim line)) with
  | true =>
      simp only [hstart, if_true, Bool.true_or] at hnext hmove
      exact .start hstart (by rw [hnext]) (by rw [hnext]) (not_mem_moveLines hline hmove)
  | false =>
      simp only [hstart, Bool.false_eq_true, if_false, Bool.false_or] at hnext hmove
      cases hbackoff : (stateAt lines k).backoff? (code (trim line)) with
      | none =>
          simp only [hbackoff] at hnext hmove
          exact .step hstart (mem_moveLines hline hmove) (by rw [hnext]) (by rw [hnext])
      | some b =>
          obtain ⟨hopen, value, hentries, hlength⟩ := backoff?_eq_some hbackoff
          simp only [hbackoff, hlength] at hnext hmove
          exact .retreat hstart hopen hentries (by rw [hnext]) (by rw [hnext])
            (not_mem_moveLines hline hmove)

theorem mem_moveLines_of_dwell (hclass : classify (code (trim line)) = .dwell)
    (hfree : roleOf (runs lines) k = .free) {time : Float}
    (htime : pause? (code (trim line)) = some time) :
    (k, dwellStep (trim line) time) ∈ moveLines lines := by
  apply mem_moveLines hline
  simp [move?, hcommand, hfree, hclass, htime]

end Use

/-- The moves of a program are conserved.  Every rapid move with axes has one use, and every pause
outside the runs is a step; no other line is one.  These steps go to the probes that are read, in
the order of their lines, those before the line of a probe as the moves before it and those after it
as the moves after it, but for what the first run drops, which is nothing unless the machine was set
up before, and for what is left over at the end while no probe is open. -/
theorem moves_read (text : String) :
    (∀ k line, (linesOf text)[k]? = some line → isCommandLine line = true →
      (classify (code (trim line)) = .rapid → (axes (code (trim line))).isEmpty = false →
        RapidUse (linesOf text) k (trim line)) ∧
      (classify (code (trim line)) = .dwell → roleOf (runs (linesOf text)) k = .free →
        ∀ time, pause? (code (trim line)) = some time →
          (k, dwellStep (trim line) time) ∈ moveLines (linesOf text))) ∧
    (∀ m ∈ moveLines (linesOf text), ∃ line, (linesOf text)[m.1]? = some line ∧
      isCommandLine line = true ∧ MoveLine (linesOf text) m.1 line m.2) ∧
    (moveLines (linesOf text)).Pairwise (fun m m' => m.1 < m'.1) ∧
    (discarded (linesOf text) ≠ [] → ∃ r, firstRunTo (linesOf text) (linesOf text).length = some r ∧
      ∃ i < r, ∃ line, (linesOf text)[i]? = some line ∧
        setsUp (roleOf (runs (linesOf text)) i) line = true) ∧
    ∃ sources early dropped late left,
      Conserves (linesOf text) (read text).probes sources early dropped late left := by
  refine ⟨fun k line hline hcommand => ⟨?_, ?_⟩, fun m => moveLine_of_mem, pairwise_movesTo _,
    setsUp_of_discarded le_rfl, exists_conserves text⟩
  · exact rapidUse_of_rapid hline hcommand
  · exact fun hclass hfree time => mem_moveLines_of_dwell hline hcommand hclass hfree

end TouchProbe.Program
