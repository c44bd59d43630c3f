import TouchProbe.Proofs.FirstRun
import TouchProbe.Proofs.ProbeLines
import TouchProbe.Proofs.ProbeTurns

/-!
The retreat of a probe is told by the lines since its own.  The one bit that a reader carries of
them stands for a history: the work origin of the axis of the probe was set since its line, and no
rapid move was a step or a retreat since then.  A line that closes the probe ends its history, so
nothing of it is left for the next one.
-/

namespace TouchProbe.Program

open Text Number State

/-! ### The history of a probe -/

/-- What the latest of the first lines gives that gives something. -/
def latestTo {α : Type} (f : Nat → Option α) (k : Nat) : Option α :=
  (List.range k).reverse.findSome? f

theorem latestTo_succ {α : Type} (f : Nat → Option α) (k : Nat) :
    latestTo f (k + 1) = (f k).or (latestTo f k) := by
  rw [latestTo, List.range_succ, List.reverse_append, List.findSome?_append, List.reverse_singleton,
    List.findSome?_singleton, latestTo]

section Program

variable (lines : List (List Char))

/-- Whether a line of a program closes the open probe: a banner, the start of a run other than the
first one, or a probe line. -/
def closesAt (k : Nat) : Bool :=
  lines[k]?.any (fun line => isPreMovesBanner (trim line)) ||
    (startsRunAt lines k && (firstRunTo lines k).isSome) || (probeLineAt? lines k).isSome

/-- Whether what a line opened is still open before a later line. -/
def StaysOpen (j k : Nat) : Prop := j < k ∧ ∀ i < k, j < i → closesAt lines i = false

instance (j k : Nat) : Decidable (StaysOpen lines j k) := inferInstanceAs (Decidable (_ ∧ _))

def originAt? (a : Axis) (k : Nat) : Option Float := lines[k]?.bind (origin? · a)

def useAt? (k : Nat) : Option Use := lines[k]?.bind (stateAt lines k).use?

/-- Whether a retreat may follow: while the probe of a line is open its work origin was set, and
since the latest line that set it no rapid move was a step or a retreat. -/
def AwaitsRetreat (l : ProbeLine) (k : Nat) : Prop :=
  ∃ o < k, StaysOpen lines l.index o ∧ (originAt? lines l.axis o).isSome ∧
    ∀ i < k, o < i → originAt? lines l.axis i = none ∧ (useAt? lines i).any Use.moves = false

/-- The length of the last retreat among the first lines that is read while the probe of a line is
open. -/
def retreatTo (l : ProbeLine) (k : Nat) : Option Float :=
  latestTo (fun i => if StaysOpen lines l.index i then (useAt? lines i).bind Use.retreat? else none) k

/-- The last value among the first lines that is given to the work origin of a probe while it is
open. -/
def originTo (l : ProbeLine) (k : Nat) : Option Float :=
  latestTo (fun i => if StaysOpen lines l.index i then originAt? lines l.axis i else none) k

/-- Whether an open probe is the one of a probe line, with what the first lines say of its retreat
and of its work origin. -/
structure Observed (k : Nat) (l : ProbeLine) (p : OpenProbe) : Prop where
  axis : p.axis = l.axis
  line : p.line = l.index + 1
  backoff : p.backoff = retreatTo lines l k
  offset : p.offset = (originTo lines l k).map Float.abs

/-- Whether a closed probe has the axis of a probe line and what the first lines say of its retreat
and of its work origin, or what is assumed where they say nothing. -/
structure Outcome (k : Nat) (l : ProbeLine) (p : Probe) : Prop where
  axis : p.axis = l.axis
  backoff : p.backoff = .float ((retreatTo lines l k).getD assumedBackoff)
  offset : p.offset = .float (((originTo lines l k).map Float.abs).getD zero)

/-- What is known of the probes of the first lines of a program: of those that are closed and of the
one that is open. -/
structure Watch (k : Nat) (closed : List ProbeLine) (opened : Option ProbeLine) : Prop where
  split : approachLinesTo lines k = closed ++ opened.toList
  isClosed : ∀ l ∈ closed, ¬ StaysOpen lines l.index k
  isOpen : ∀ l ∈ opened, StaysOpen lines l.index k
  probes : List.Forall₂ (Outcome lines k) closed (stateAt lines k).probes
  assumed : (stateAt lines k).backoffLines =
    (closed.filter fun l => (retreatTo lines l k).isNone).map fun l => l.index + 1
  current : Option.Rel (Observed lines k) opened (stateAt lines k).current
  awaits : (stateAt lines k).awaitsBackoff = true ↔ ∃ l ∈ opened, AwaitsRetreat lines l k

variable {lines}

theorem turn_stateAt {k : Nat} (hk : k < lines.length) :
    Turn (stateAt lines k) (stateAt lines (k + 1)) (fun a => originAt? lines a k) (closesAt lines k)
      (probeLineAt? lines k) (useAt? lines k) := by
  have hline := List.getElem?_eq_getElem hk
  have hcloses : closesAt lines k =
      (stateAt lines k).closes k (roleOf (runs lines) k) lines[k] := by
    have hfirst : startsFirstAt lines k = ((firstRunTo lines k).isNone && startsRunAt lines k) :=
      startsFirstAt_eq hk.le
    rw [startsFirstAt] at hfirst
    rw [closesAt, State.closes, hfirst, probeLineAt?, hline, startsRunAt]
    cases firstRunTo lines k <;> cases (roleOf (runs lines) k).run? <;> simp
  have hturn := @turn_readLine (stateAt lines k) k _ _ (clears_of_roleOf hline)
  rw [stateAt_succ hline, hcloses, probeLineAt?, useAt?, hline]
  simpa only [originAt?, hline, Option.bind_some] using hturn

/-! ### One more line -/

theorem StaysOpen.succ {j k : Nat} (h : StaysOpen lines j k) (hcloses : closesAt lines k = false) :
    StaysOpen lines j (k + 1) := by
  refine ⟨h.1.trans (Nat.lt_succ_self k), fun i hi hji => ?_⟩
  rcases Nat.lt_succ_iff_lt_or_eq.1 hi with hi | rfl
  · exact h.2 i hi hji
  · exact hcloses

theorem StaysOpen.of_succ {j k : Nat} (h : StaysOpen lines j (k + 1)) (hjk : j < k) :
    StaysOpen lines j k ∧ closesAt lines k = false :=
  ⟨⟨hjk, fun i hi => h.2 i (hi.trans (Nat.lt_succ_self k))⟩, h.2 k (Nat.lt_succ_self k) hjk⟩

section Line

variable {l : ProbeLine} {k : Nat}

theorem retreatTo_succ : retreatTo lines l (k + 1) =
    (if StaysOpen lines l.index k then (useAt? lines k).bind Use.retreat? else none).or
      (retreatTo lines l k) := latestTo_succ _ k

theorem originTo_succ : originTo lines l (k + 1) =
    (if StaysOpen lines l.index k then originAt? lines l.axis k else none).or
      (originTo lines l k) := latestTo_succ _ k

theorem retreat?_of_unmoved {use : Option Use} (h : use.any Use.moves = false) :
    use.bind Use.retreat? = none := by
  rcases use with _ | _ | length | _
  · rfl
  · rfl
  · cases h
  · cases h

/-- A line that says nothing to a probe, or that is read after the probe was closed. -/
theorem unchanged_succ (h : StaysOpen lines l.index k →
      originAt? lines l.axis k = none ∧ (useAt? lines k).bind Use.retreat? = none) :
    retreatTo lines l (k + 1) = retreatTo lines l k ∧
      originTo lines l (k + 1) = originTo lines l k := by
  rw [retreatTo_succ, originTo_succ]
  split
  · next hopen =>
    obtain ⟨horigin, huse⟩ := h hopen
    rw [horigin, huse]
    exact ⟨rfl, rfl⟩
  · exact ⟨rfl, rfl⟩

theorem awaitsRetreat_succ_of_quiet (hunset : originAt? lines l.axis k = none)
    (hunmoved : (useAt? lines k).any Use.moves = false) :
    AwaitsRetreat lines l (k + 1) ↔ AwaitsRetreat lines l k := by
  constructor
  · rintro ⟨o, ho, hopen, hset, hsince⟩
    have hne : o ≠ k := by
      rintro rfl
      rw [hunset] at hset
      cases hset
    exact ⟨o, by omega, hopen, hset, fun i hi => hsince i (hi.trans (Nat.lt_succ_self k))⟩
  · rintro ⟨o, ho, hopen, hset, hsince⟩
    refine ⟨o, ho.trans (Nat.lt_succ_self k), hopen, hset, fun i hi hoi => ?_⟩
    rcases Nat.lt_succ_iff_lt_or_eq.1 hi with hi | rfl
    · exact hsince i hi hoi
    · exact ⟨hunset, hunmoved⟩

theorem awaitsRetreat_succ_of_set (hopen : StaysOpen lines l.index k)
    (hset : (originAt? lines l.axis k).isSome) : AwaitsRetreat lines l (k + 1) :=
  ⟨k, Nat.lt_succ_self k, hopen, hset, fun i hi hki => by omega⟩

theorem not_awaitsRetreat_succ_of_move (hunset : originAt? lines l.axis k = none)
    (hmoved : (useAt? lines k).any Use.moves = true) : ¬ AwaitsRetreat lines l (k + 1) := by
  rintro ⟨o, ho, -, hset, hsince⟩
  rcases Nat.lt_succ_iff_lt_or_eq.1 ho with ho | rfl
  · rw [(hsince k (Nat.lt_succ_self k) ho).2] at hmoved
    cases hmoved
  · rw [hunset] at hset
    cases hset

/-- After a move no retreat is awaited, neither by the reader nor by the history. -/
theorem awaits_succ_of_move {opened : Option ProbeLine}
    (hawaits : (stateAt lines (k + 1)).awaitsBackoff = false) (hunset : ∀ a, originAt? lines a k = none)
    (hmoved : (useAt? lines k).any Use.moves = true) :
    (stateAt lines (k + 1)).awaitsBackoff = true ↔ ∃ l ∈ opened, AwaitsRetreat lines l (k + 1) := by
  rw [hawaits]
  refine iff_of_false Bool.false_ne_true ?_
  rintro ⟨l, -, hl⟩
  exact not_awaitsRetreat_succ_of_move (hunset l.axis) hmoved hl

/-- Nothing was read of a probe before its line. -/
theorem not_awaitsRetreat_of_opens (h : l.index = k) : ¬ AwaitsRetreat lines l (k + 1) := by
  rintro ⟨o, ho, hopen, -⟩
  have hlt := hopen.1
  omega

theorem nothing_of_opens (h : l.index = k) :
    retreatTo lines l (k + 1) = none ∧ originTo lines l (k + 1) = none := by
  have hclosed (i : Nat) (hi : i ∈ (List.range (k + 1)).reverse) : ¬ StaysOpen lines l.index i := by
    rw [List.mem_reverse, List.mem_range] at hi
    intro hopen
    have hlt := hopen.1
    omega
  rw [retreatTo, originTo, latestTo, latestTo, List.findSome?_eq_none_iff,
    List.findSome?_eq_none_iff]
  exact ⟨fun i hi => if_neg (hclosed i hi), fun i hi => if_neg (hclosed i hi)⟩

end Line

theorem Outcome.of_observed {k : Nat} {l : ProbeLine} {p : OpenProbe} (h : Observed lines k l p)
    (moves : List Step) : Outcome lines k l (p.close moves) where
  axis := h.axis
  backoff := by rw [← h.backoff]; rfl
  offset := by rw [← h.offset]; rfl

section Congr

variable {k m : Nat} {closed : List ProbeLine}
  (hsame : ∀ l ∈ closed, retreatTo lines l m = retreatTo lines l k ∧
    originTo lines l m = originTo lines l k)

include hsame

theorem forall₂_outcome_congr {ps : List Probe} (h : List.Forall₂ (Outcome lines k) closed ps) :
    List.Forall₂ (Outcome lines m) closed ps := by
  refine ((List.forall₂_and_left closed ps).2 ⟨hsame, h⟩).imp fun l p hlp => ?_
  obtain ⟨⟨hretreat, horigin⟩, hout⟩ := hlp
  exact ⟨hout.axis, by rw [hretreat, hout.backoff], by rw [horigin, hout.offset]⟩

theorem filter_isNone_retreatTo_congr :
    closed.filter (fun l => (retreatTo lines l m).isNone) =
      closed.filter fun l => (retreatTo lines l k).isNone :=
  List.filter_congr fun l hl => by rw [(hsame l hl).1]

end Congr

namespace Watch

variable {k : Nat} {closed : List ProbeLine} {opened : Option ProbeLine}

theorem start : Watch lines 0 [] none where
  split := rfl
  isClosed := by simp
  isOpen := by simp
  probes := .nil
  assumed := rfl
  current := .none
  awaits := by simp [stateAt]

variable (h : Watch lines k closed opened)

include h

theorem lt_of_mem {l : ProbeLine} (hl : l ∈ closed) : l.index < k := by
  have hmem : l ∈ approachLinesTo lines k := by
    rw [h.split]
    exact List.mem_append_left _ hl
  exact (mem_approachLinesTo.1 hmem).1

/-- When the open probe is closed, each probe that was read has what the lines said to it. -/
theorem all_probes (moves : List Step) : List.Forall₂ (Outcome lines k) (approachLinesTo lines k)
    ((stateAt lines k).probes ++ (stateAt lines k).current.toList.map fun p => p.close moves) := by
  rw [h.split]
  apply List.rel_append h.probes
  have hcurrent := h.current
  cases hc : (stateAt lines k).current with
  | none =>
      rw [hc] at hcurrent
      cases hcurrent
      exact .nil
  | some p =>
      rw [hc] at hcurrent
      cases hcurrent with
      | some hobserved => exact .cons (.of_observed hobserved moves) .nil

/-- When the open probe is closed, the probes whose retreats are assumed are those without one. -/
theorem all_assumed : (stateAt lines k).backoffLines ++
      ((stateAt lines k).current.toList.filter fun p => p.backoff.isNone).map OpenProbe.line =
    ((approachLinesTo lines k).filter fun l => (retreatTo lines l k).isNone).map
      fun l => l.index + 1 := by
  rw [h.split, List.filter_append, List.map_append, ← h.assumed]
  congr 1
  have hcurrent := h.current
  cases hc : (stateAt lines k).current with
  | none =>
      rw [hc] at hcurrent
      cases hcurrent
      rfl
  | some p =>
      rw [hc] at hcurrent
      cases hcurrent with
      | @some l _ hobserved =>
          rw [Option.toList_some, Option.toList_some, List.filter_singleton, List.filter_singleton,
            hobserved.backoff]
          cases retreatTo lines l k <;> simp [hobserved.line]

theorem current_cases : opened = none ∧ (stateAt lines k).current = none ∨
    ∃ l p, opened = some l ∧ (stateAt lines k).current = some p ∧ Observed lines k l p := by
  have hcurrent := h.current
  generalize (stateAt lines k).current = current at hcurrent
  cases hcurrent with
  | none => exact .inl ⟨rfl, rfl⟩
  | some hobserved => exact .inr ⟨_, _, rfl, rfl, hobserved⟩

/-- The probe of an open probe is known. -/
theorem exists_observed {p : OpenProbe} (hp : (stateAt lines k).current = some p) :
    ∃ l, opened = some l ∧ Observed lines k l p := by
  rcases h.current_cases with ⟨-, hnone⟩ | ⟨l, q, hl, hq, hobserved⟩
  · rw [hp] at hnone
    cases hnone
  · obtain rfl := Option.some.inj (hp.symm.trans hq)
    exact ⟨l, hl, hobserved⟩

theorem not_awaits_of_isNone :
    ((stateAt lines k).current.isNone && (stateAt lines k).awaitsBackoff) = false := by
  rcases h.current_cases with ⟨rfl, hnone⟩ | ⟨l, p, -, hp, -⟩
  · have hawaits : ¬ (stateAt lines k).awaitsBackoff = true := by simp [h.awaits]
    rw [Bool.eq_false_iff.2 hawaits, Bool.and_false]
  · rw [hp]
    rfl

/-- The open probe stays observed by a line that changes nothing of it. -/
theorem current_succ (hcurrent : (stateAt lines (k + 1)).current = (stateAt lines k).current)
    (hsilent : ∀ l ∈ opened, originAt? lines l.axis k = none ∧
      (useAt? lines k).bind Use.retreat? = none) :
    Option.Rel (Observed lines (k + 1)) opened (stateAt lines (k + 1)).current := by
  rw [hcurrent]
  rcases h.current_cases with ⟨rfl, hnone⟩ | ⟨l, p, rfl, hp, hobserved⟩
  · rw [hnone]
    exact .none
  · obtain ⟨hretreat, horigin⟩ := unchanged_succ fun _ => hsilent l rfl
    rw [hp]
    exact .some ⟨hobserved.axis, hobserved.line, by rw [hretreat, hobserved.backoff],
      by rw [horigin, hobserved.offset]⟩

section Advance

variable (hcloses : closesAt lines k = false) (hprobe : probeLineAt? lines k = none)
  (hprobes : (stateAt lines (k + 1)).probes = (stateAt lines k).probes)
  (hassumed : (stateAt lines (k + 1)).backoffLines = (stateAt lines k).backoffLines)

include hcloses hprobe hprobes hassumed

/-- A line that closes nothing leaves it at the same probes. -/
theorem advance
    (hcurrent : Option.Rel (Observed lines (k + 1)) opened (stateAt lines (k + 1)).current)
    (hawaits : (stateAt lines (k + 1)).awaitsBackoff = true ↔
      ∃ l ∈ opened, AwaitsRetreat lines l (k + 1)) : Watch lines (k + 1) closed opened := by
  have hsame : ∀ l ∈ closed, retreatTo lines l (k + 1) = retreatTo lines l k ∧
      originTo lines l (k + 1) = originTo lines l k :=
    fun l hl => unchanged_succ fun hopen => absurd hopen (h.isClosed l hl)
  exact {
    split := by rw [approachLinesTo_succ, hprobe, h.split, Option.toList_none, List.append_nil]
    isClosed := fun l hl hopen => h.isClosed l hl (hopen.of_succ (h.lt_of_mem hl)).1
    isOpen := fun l hl => (h.isOpen l hl).succ hcloses
    probes := by
      rw [hprobes]
      exact forall₂_outcome_congr hsame h.probes
    assumed := by
      rw [hassumed, h.assumed, filter_isNone_retreatTo_congr hsame]
    current := hcurrent
    awaits := hawaits }

/-- A line that says nothing to the open probe.  It may set a work origin, but not that of the axis
of the probe. -/
theorem succ_of_rests (hunset : ∀ p ∈ (stateAt lines k).current, originAt? lines p.axis k = none)
    (hunmoved : (useAt? lines k).any Use.moves = false)
    (hcurrent : (stateAt lines (k + 1)).current = (stateAt lines k).current)
    (hawaits : (stateAt lines (k + 1)).awaitsBackoff = (stateAt lines k).awaitsBackoff) :
    Watch lines (k + 1) closed opened := by
  have hsilent : ∀ l ∈ opened, originAt? lines l.axis k = none := by
    intro l hl
    rcases h.current_cases with ⟨rfl, -⟩ | ⟨l', p, rfl, hp, hobserved⟩
    · cases hl
    · cases hl
      rw [← hobserved.axis]
      exact hunset p hp
  refine h.advance hcloses hprobe hprobes hassumed ?_ ?_
  · exact h.current_succ hcurrent fun l hl => ⟨hsilent l hl, retreat?_of_unmoved hunmoved⟩
  · rw [hawaits, h.awaits]
    refine exists_congr fun l => and_congr_right fun hl => ?_
    exact (awaitsRetreat_succ_of_quiet (hsilent l hl) hunmoved).symm

/-- After the work origin of its axis was set, the retreat of the open probe is awaited. -/
theorem succ_of_sets {p : OpenProbe} {value : Float} (huse : useAt? lines k = none)
    (hopened : (stateAt lines k).current = some p) (hset : originAt? lines p.axis k = some value)
    (hcurrent : (stateAt lines (k + 1)).current = some { p with offset := some value.abs })
    (hawaits : (stateAt lines (k + 1)).awaitsBackoff = true) : Watch lines (k + 1) closed opened := by
  obtain ⟨l, rfl, hobserved⟩ := h.exists_observed hopened
  have hopen := h.isOpen l rfl
  rw [hobserved.axis] at hset
  refine h.advance hcloses hprobe hprobes hassumed ?_ ?_
  · rw [hcurrent]
    refine .some ⟨hobserved.axis, hobserved.line, ?_, ?_⟩
    · rw [retreatTo_succ, if_pos hopen, huse]
      exact hobserved.backoff
    · rw [originTo_succ, if_pos hopen, hset]
      rfl
  · exact iff_of_true hawaits ⟨l, rfl, awaitsRetreat_succ_of_set hopen (by rw [hset]; rfl)⟩

theorem succ_of_retreats {p : OpenProbe} {length : Float}
    (huse : useAt? lines k = some (.retreat length))
    (hopened : (stateAt lines k).current = some p) (hunset : ∀ a, originAt? lines a k = none)
    (hcurrent : (stateAt lines (k + 1)).current = some { p with backoff := some length })
    (hawaits : (stateAt lines (k + 1)).awaitsBackoff = false) : Watch lines (k + 1) closed opened := by
  obtain ⟨l, rfl, hobserved⟩ := h.exists_observed hopened
  have hopen := h.isOpen l rfl
  refine h.advance hcloses hprobe hprobes hassumed ?_ ?_
  · rw [hcurrent]
    refine .some ⟨hobserved.axis, hobserved.line, ?_, ?_⟩
    · rw [retreatTo_succ, if_pos hopen, huse]
      rfl
    · rw [originTo_succ, if_pos hopen, hunset]
      exact hobserved.offset
  · exact awaits_succ_of_move hawaits hunset (by rw [huse]; rfl)

/-- A rapid move that is a step leaves the open probe as it is, but no retreat may follow it. -/
theorem succ_of_moves (huse : useAt? lines k = some .step)
    (hunset : ∀ a, originAt? lines a k = none)
    (hcurrent : (stateAt lines (k + 1)).current = (stateAt lines k).current)
    (hawaits : (stateAt lines (k + 1)).awaitsBackoff = false) : Watch lines (k + 1) closed opened := by
  refine h.advance hcloses hprobe hprobes hassumed ?_ ?_
  · exact h.current_succ hcurrent fun l _ => ⟨hunset l.axis, by rw [huse]; rfl⟩
  · exact awaits_succ_of_move hawaits hunset (by rw [huse]; rfl)

end Advance

section TurnOver

variable {moves : List Step} (hcloses : closesAt lines k = true) (huse : useAt? lines k = none)
  (hunset : ∀ a, originAt? lines a k = none)
  (hprobes : (stateAt lines (k + 1)).probes = (stateAt lines k).probes ++
    (stateAt lines k).current.toList.map fun p => p.close moves)
  (hassumed : (stateAt lines (k + 1)).backoffLines = (stateAt lines k).backoffLines ++
    ((stateAt lines k).current.toList.filter fun p => p.backoff.isNone).map OpenProbe.line)
  (hawaits : (stateAt lines (k + 1)).awaitsBackoff =
    ((stateAt lines k).current.isNone && (stateAt lines k).awaitsBackoff))

include hcloses huse hunset hprobes hassumed hawaits

/-- A line that closes the open probe, and perhaps opens another one. -/
theorem turnOver (hcurrent : Option.Rel (Observed lines (k + 1)) (probeLineAt? lines k)
      (stateAt lines (k + 1)).current) :
    Watch lines (k + 1) (approachLinesTo lines k) (probeLineAt? lines k) := by
  have hsame : ∀ l ∈ approachLinesTo lines k, retreatTo lines l (k + 1) = retreatTo lines l k ∧
      originTo lines l (k + 1) = originTo lines l k :=
    fun l _ => unchanged_succ fun _ => ⟨hunset l.axis, by rw [huse]; rfl⟩
  exact {
    split := approachLinesTo_succ k
    isClosed := fun l hl hopen => by
      rw [(hopen.of_succ (mem_approachLinesTo.1 hl).1).2] at hcloses
      cases hcloses
    isOpen := fun l hl => by
      rw [← index_of_probeLineAt? hl]
      exact ⟨Nat.lt_succ_self _, fun i hi hli => by omega⟩
    probes := by
      rw [hprobes]
      exact forall₂_outcome_congr hsame (h.all_probes moves)
    assumed := by
      rw [hassumed, h.all_assumed, filter_isNone_retreatTo_congr hsame]
    current := hcurrent
    awaits := by
      rw [hawaits, h.not_awaits_of_isNone]
      refine iff_of_false Bool.false_ne_true ?_
      rintro ⟨l, hl, hawaited⟩
      exact not_awaitsRetreat_of_opens (index_of_probeLineAt? hl) hawaited }

theorem succ_of_closes (hprobe : probeLineAt? lines k = none)
    (hcurrent : (stateAt lines (k + 1)).current = none) :
    Watch lines (k + 1) (approachLinesTo lines k) (probeLineAt? lines k) := by
  refine h.turnOver hcloses huse hunset hprobes hassumed hawaits ?_
  rw [hprobe, hcurrent]
  exact .none

/-- The probe of a probe line has no history yet. -/
theorem succ_of_opens {l : ProbeLine} {pending : List Step} (hprobe : probeLineAt? lines k = some l)
    (hcurrent : (stateAt lines (k + 1)).current = some (l.opened pending)) :
    Watch lines (k + 1) (approachLinesTo lines k) (probeLineAt? lines k) := by
  obtain ⟨hretreat, horigin⟩ := nothing_of_opens (index_of_probeLineAt? hprobe)
  refine h.turnOver hcloses huse hunset hprobes hassumed hawaits ?_
  rw [hprobe, hcurrent]
  exact .some ⟨rfl, rfl, by rw [hretreat]; rfl, by rw [horigin]; rfl⟩

end TurnOver

/-- Whatever a line is, what is known of the probes can be kept up. -/
theorem succ (hk : k < lines.length) : ∃ closed' opened', Watch lines (k + 1) closed' opened' := by
  have hturn := turn_stateAt hk
  generalize hcloses : closesAt lines k = closes at hturn
  generalize hprobe : probeLineAt? lines k = l at hturn
  generalize huse : useAt? lines k = use at hturn
  cases hturn with
  | rests unset unmoved current awaits probes assumed =>
      rw [← huse] at unmoved
      exact ⟨_, _, h.succ_of_rests hcloses hprobe probes assumed unset unmoved current awaits⟩
  | sets isOpen isSet current awaits probes assumed =>
      exact ⟨_, _, h.succ_of_sets hcloses hprobe probes assumed huse isOpen isSet current awaits⟩
  | retreats isOpen unset current awaits probes assumed =>
      exact ⟨_, _, h.succ_of_retreats hcloses hprobe probes assumed huse isOpen unset current awaits⟩
  | moves unset current awaits probes assumed =>
      exact ⟨_, _, h.succ_of_moves hcloses hprobe probes assumed huse unset current awaits⟩
  | closes unset probes current awaits assumed =>
      exact ⟨_, _, h.succ_of_closes hcloses huse unset probes assumed awaits hprobe current⟩
  | opens unset probes current awaits assumed =>
      exact ⟨_, _, h.succ_of_opens hcloses huse unset probes assumed awaits hprobe current⟩

end Watch

/-- At each line it is known which probes are closed and which one is open. -/
theorem exists_watch {k : Nat} (hk : k ≤ lines.length) :
    ∃ closed opened, Watch lines k closed opened := by
  induction k with
  | zero => exact ⟨[], none, .start⟩
  | succ k ih =>
      obtain ⟨closed, opened, h⟩ := ih (Nat.le_of_succ_le hk)
      exact h.succ hk

/-- A probe line that is still open is that of the open probe. -/
theorem exists_current {l : ProbeLine} {k : Nat} (hl : l ∈ approachLines lines)
    (hopen : StaysOpen lines l.index k) (hk : k ≤ lines.length) :
    ∃ p, (stateAt lines k).current = some p ∧ p.axis = l.axis ∧
      ((stateAt lines k).awaitsBackoff = true ↔ AwaitsRetreat lines l k) := by
  obtain ⟨closed, opened, h⟩ := exists_watch hk
  have hmem : l ∈ approachLinesTo lines k :=
    mem_approachLinesTo.2 ⟨hopen.1, (mem_approachLinesTo.1 hl).2⟩
  rw [h.split, List.mem_append] at hmem
  rcases hmem with hclosed | hopened
  · exact absurd hopen (h.isClosed l hclosed)
  · obtain rfl : opened = some l := Option.mem_toList.1 hopened
    rcases h.current_cases with ⟨hnone, -⟩ | ⟨l', p, hl', hp, hobserved⟩
    · cases hnone
    · cases hl'
      exact ⟨p, hp, hobserved.axis, by rw [h.awaits]; simp⟩

/-! ### Retreats are the moves right after the work origin was set -/

variable (lines) in
/-- Whether a rapid move is the retreat of the probe of a line: it does not tell where the machine
starts, it is relative and along the axis of the probe alone, and a retreat may follow. -/
structure IsRetreat (l : ProbeLine) (k : Nat) (code : List Char) (length : Float) : Prop where
  goesOn : useAt? lines k ≠ some .start
  relative : hasWord "G91".toList code = true
  alone : ∃ value, (axes code).entries = [(l.axis, value)] ∧ length = value.abs
  awaited : AwaitsRetreat lines l k

theorem useAt?_eq_retreat {l : ProbeLine} {k : Nat} {line : List Char}
    (hl : l ∈ approachLines lines) (hopen : StaysOpen lines l.index k) (hline : lines[k]? = some line)
    (hrapid : classify (lineCode line) = .rapid) (length : Float) :
    useAt? lines k = some (.retreat length) ↔ IsRetreat lines l k (lineCode line) length := by
  have hk := (List.getElem?_eq_some_iff.1 hline).1
  obtain ⟨p, hp, haxis, hawaits⟩ := exists_current hl hopen hk.le
  have huse : useAt? lines k = (stateAt lines k).use? line := by rw [useAt?, hline, Option.bind_some]
  rw [huse, use?_eq_retreat hrapid hp, haxis, hawaits, ← huse]
  exact ⟨fun ⟨hstart, hword, hone, hawaits⟩ => ⟨hstart, hword, hone, hawaits⟩,
    fun ⟨hstart, hword, hone, hawaits⟩ => ⟨hstart, hword, hone, hawaits⟩⟩

/-- A rapid move is a step of the program just when it is read as one. -/
theorem moveAt?_isSome_iff {k : Nat} {line : List Char} (hline : lines[k]? = some line)
    (hrapid : classify (lineCode line) = .rapid) :
    (moveAt? lines k).isSome ↔ useAt? lines k = some .step := by
  have hcommand : isCommandLine line = true := by
    by_contra hnot
    rw [classify_lineCode_of_not_command (Bool.eq_false_iff.2 hnot)] at hrapid
    cases hrapid
  rw [moveAt?, useAt?, hline, Option.bind_some, Option.bind_some, use?, hrapid]
  rw [lineCode_of_command hcommand] at hrapid ⊢
  rw [eq_free_of_rapid (clears_of_roleOf hline) hrapid, move?, hcommand, hrapid]
  cases (axes (code (trim line))).isEmpty with
  | true => simp
  | false =>
      cases (stateAt lines k).isStart (code (trim line)) with
      | true => simp
      | false => cases (stateAt lines k).backoff? (code (trim line)) <;> simp

/-- The retreat of the open probe is no step. -/
theorem retreat_stateAt {k : Nat} {length : Float} (huse : useAt? lines k = some (.retreat length)) :
    ∃ p, (stateAt lines k).current = some p ∧
      (stateAt lines (k + 1)).current = some { p with backoff := some length } := by
  have hk : k < lines.length := by
    obtain ⟨line, hline, -⟩ := Option.bind_eq_some_iff.1 huse
    exact (List.getElem?_eq_some_iff.1 hline).1
  have hturn := turn_stateAt hk
  rw [huse] at hturn
  generalize closesAt lines k = closes at hturn
  generalize probeLineAt? lines k = l at hturn
  cases hturn with
  | rests unset unmoved current awaits probes assumed => cases unmoved
  | retreats isOpen unset current awaits probes assumed => exact ⟨_, isOpen, current⟩

end Program

/-- The retreats of the probes that are read from a program are told by its lines.  A rapid move
that is read while a probe is open is its retreat just when the move right after the setting of its
work origin is expected, it is relative and along the axis of the probe alone; then it is no step.
Each probe has the length of the last such move and the work origin of the last line that set it;
where no line told its retreat one is assumed, and those probes alone are listed, each by its
line. -/
theorem retreats_read (text : String) :
    (∀ l ∈ approachLines (linesOf text), ∀ k line, StaysOpen (linesOf text) l.index k →
      (linesOf text)[k]? = some line → classify (lineCode line) = .rapid → ∀ length,
        (useAt? (linesOf text) k = some (.retreat length) ↔
          IsRetreat (linesOf text) l k (lineCode line) length)) ∧
    (∀ k line, (linesOf text)[k]? = some line → classify (lineCode line) = .rapid →
      ((moveAt? (linesOf text) k).isSome ↔ useAt? (linesOf text) k = some .step)) ∧
    (∀ k length, useAt? (linesOf text) k = some (.retreat length) →
      ∃ p, (stateAt (linesOf text) k).current = some p ∧
        (stateAt (linesOf text) (k + 1)).current = some { p with backoff := some length }) ∧
    List.Forall₂ (Outcome (linesOf text) (linesOf text).length) (approachLines (linesOf text))
      (read text).probes ∧
    (read text).assumptions.filterMap Assumption.backoffLine? =
      ((approachLines (linesOf text)).filter fun l =>
        (retreatTo (linesOf text) l (linesOf text).length).isNone).map fun l => l.index + 1 := by
  obtain ⟨closed, opened, h⟩ : ∃ closed opened,
      Watch (linesOf text) (linesOf text).length closed opened := exists_watch le_rfl
  refine ⟨fun l hl k line hopen hline hrapid => useAt?_eq_retreat hl hopen hline hrapid,
    fun k line => moveAt?_isSome_iff, fun k length => retreat_stateAt, ?_, ?_⟩
  · rw [read, readLines_eq_stateAt, approachLines]
    have hall := h.all_probes (stateAt (linesOf text) (linesOf text).length).pending
    rwa [← probes_closeProbe] at hall
  · rw [read, readLines_eq_stateAt, approachLines, ← h.all_assumed]
    exact backoffLines_closeProbe _

/-- A step after the work origin was set leaves no retreat to follow. -/
example : (read "G38.2 Z-10 F50\nG10 L20 P1 Z0\nG0 X3\nG91 G0 Z2").assumptions = [.backoff 1] := by
  decide +kernel

end TouchProbe.Program
