import TouchProbe.Proofs.Motions
import TouchProbe.Proofs.PlanFaults

/-!
A planned path is one chain of the motions that the program of its sequence makes.  The planner and
the writer of programs skip steps by rules of their own, the one asking for axes and the other for
words of axes; over numbers the two rules are one, and a step that is skipped leaves no trace in a
walk.
-/

namespace TouchProbe

open Program

/-- Whether the line of a step is empty. -/
def Step.isUnwritten (s : Step) : Bool :=
  match writeStep s with
  | .ok text => text == ""
  | .error _ => false

/-- The operation without the steps whose lines are empty. -/
def Probe.written (p : Probe) : Probe :=
  { p with
    preMoves := p.preMoves.filter fun s => !s.isUnwritten
    postMoves := p.postMoves.filter fun s => !s.isUnwritten }

namespace Path

/-! ### Two rules for steps that are skipped -/

theorem stepLine?_of_not_acts {s : Step} (hs : IsNumeric s) (h : s.acts = false) :
    stepLine? s = .ok none := by
  cases s with
  | rapid r =>
      obtain ⟨vs, hvs, -⟩ := hs
      rw [Step.acts, hvs, Bool.not_eq_false'] at h
      have hentries : vs.entries = [] := List.isEmpty_iff.1 h
      rw [stepLine?, hvs, RapidAxes.toValues]
      change (do let words ← axisWords vs; _) = _
      rw [axisWords, hentries]
      rfl
  | dwell d =>
      rw [Step.acts] at h
      rw [stepLine?, h]
      rfl

/-- Over numbers a step has a line just when it asks for a motion. -/
theorem isSome_writtenStep_eq_acts {s : Step} (hs : IsNumeric s) : (writtenStep s).isSome = s.acts := by
  cases s with
  | rapid r => exact isSome_writtenStep hs
  | dwell d =>
      rw [writtenStep, Step.acts]
      cases d.time.isTruthy <;> rfl

/-- A line has at least its end. -/
theorem textOf_singleton_ne (line : Line) : textOf [line] ≠ "" := by
  have hchars : line.chars ≠ [] := by cases line <;> simp [Line.chars]
  intro h
  have hlist := congrArg String.toList h
  rw [textOf, String.toList_ofList, List.flatMap_singleton] at hlist
  exact hchars hlist

/-- The line of a step is empty just when the step asks for no motion. -/
theorem isUnwritten_eq {s : Step} (hs : IsNumeric s) : s.isUnwritten = !s.acts := by
  cases hacts : s.acts with
  | false =>
      rw [Step.isUnwritten, writeStep, stepLine?_of_not_acts hs hacts]
      rfl
  | true =>
      rw [Step.isUnwritten, writeStep]
      cases hline : stepLine? s with
      | error f => rfl
      | ok l =>
          have hsome := isSome_writtenStep_eq_acts hs
          rw [← stepLine?_eq_ok hline, hacts] at hsome
          obtain ⟨line, rfl⟩ := Option.isSome_iff_exists.1 hsome
          exact beq_false_of_ne (textOf_singleton_ne line)

/-- The line of a step over numbers can only fail at a value beyond all floats. -/
theorem inRange_writeStep {s : Step} (hs : IsNumeric s)
    (htime : ∀ d, s = .dwell d → (Datum.scalar d.time).IsNumber) : InRange Anything (writeStep s) := by
  have hnumber {d : Datum} (hd : d.IsNumber) : InRange Anything (writeNumber d) :=
    hd.toFloat.map fun _ _ => trivial
  have hline : InRange Anything (stepLine? s) := by
    cases s with
    | rapid r =>
        obtain ⟨vs, hvs, hnumbers⟩ := hs
        have hwords : InRange Anything (axisWords vs) := InRange.mapM fun e he =>
          (hnumber (hnumbers e (List.mem_of_mem_filter he))).bind fun _ _ => trivial
        rw [stepLine?, hvs]
        refine InRange.bind (P := (· = vs)) rfl ?_
        rintro vs rfl
        refine hwords.bind fun words _ => ?_
        split <;> trivial
    | dwell d =>
        rw [stepLine?]
        cases d.time.isTruthy with
        | false => trivial
        | true => exact (hnumber (htime d rfl)).bind fun _ _ => trivial
  exact hline.bind fun _ _ => trivial

theorem filter_isUnwritten {steps : List Step} (h : ∀ s ∈ steps, IsNumeric s) :
    (steps.filter fun s => !s.isUnwritten) = steps.filter Step.acts :=
  List.filter_congr fun s hs => by rw [isUnwritten_eq (h s hs), Bool.not_not]

/-! ### Steps that leave no trace -/

/-- Things at which a walk rests can be left out. -/
theorem walkAll_filter {α : Type} {walk : Walk → α → Except Fault (Walk × List Segment)}
    {keep : α → Bool}
    (h : ∀ w a, keep a = false → walk w a = .ok (w, [])) (w : Walk) (as : List α) :
    walkAll walk w (as.filter keep) = walkAll walk w as := by
  induction as generalizing w with
  | nil => rfl
  | cons a as ih =>
      cases hkeep : keep a with
      | true =>
          rw [List.filter_cons_of_pos hkeep, walkAll, walkAll]
          simp only [ih]
      | false =>
          rw [List.filter_cons_of_neg (by simp [hkeep]), ih, walkAll, h w a hkeep]
          change _ = walkAll walk w as >>= fun r => Except.ok (r.1, [] ++ r.2)
          cases walkAll walk w as <;> rfl

theorem walkOperation_written (rapidFeed : Datum) (w : Walk) {p : Probe} (h : HasNumericMoves p) :
    walkOperation rapidFeed w p.written = walkOperation rapidFeed w p := by
  obtain ⟨hpre, hpost⟩ := List.forall_mem_append.1 h
  have hrests (w : Walk) (s : Step) (hs : s.acts = false) :
      walkStep rapidFeed p.id w s = .ok (w, []) := walkStep_of_not_acts hs p.id
  rw [walkOperation, walkOperation]
  simp only [Probe.written, filter_isUnwritten hpre, filter_isUnwritten hpost,
    walkAll_filter hrests]
  rfl

theorem walkAll_map {α β : Type} {walk : Walk → α → Except Fault (Walk × List Segment)}
    {walk' : Walk → β → Except Fault (Walk × List Segment)} {f : α → β} {as : List α}
    (h : ∀ a ∈ as, ∀ w, walk' w (f a) = walk w a) (w : Walk) :
    walkAll walk' w (as.map f) = walkAll walk w as := by
  induction as generalizing w with
  | nil => rfl
  | cons a as ih =>
      obtain ⟨ha, has⟩ := List.forall_mem_cons.1 h
      rw [List.map_cons, walkAll, walkAll, ha]
      simp only [ih has]

/-! ### The chain of a path -/

/-- Whether a path is one chain from a start. -/
structure IsConnected (start : Position) (path : List Segment) : Prop where
  first : ∀ s ∈ path.head?, s.start = start
  next : path.IsChain fun s t => t.start = s.finish

theorem isConnected_nil (start : Position) : IsConnected start [] := ⟨by simp, .nil⟩

theorem IsConnected.cons {s : Segment} {start finish : Position} {path : List Segment}
    (hstart : s.start = start) (hfinish : s.finish = finish) (h : IsConnected finish path) :
    IsConnected start (s :: path) where
  first t ht := by
    cases ht
    exact hstart
  next := List.isChain_cons.2 ⟨fun t ht => (h.first t ht).trans hfinish.symm, h.next⟩

theorem Traces.isConnected {w w' : Walk} {ms : List Motion} {path : List Segment}
    (h : Traces w ms path w') : IsConnected w.position path := by
  induction h with
  | rest => exact isConnected_nil _
  | rapid axes ends _ ih => exact .cons rfl rfl ih
  | dwell _ ih => exact .cons rfl rfl ih
  | probe travels touches sets backs ends _ ih => exact .cons rfl rfl (.cons rfl rfl ih)

/-- Pauses do not move. -/
theorem Traces.rests {w w' : Walk} {ms : List Motion} {path : List Segment} (h : Traces w ms path w') :
    ∀ s ∈ path, s.kind = .dwell → s.finish = s.start := by
  induction h with
  | rest => simp
  | rapid axes ends _ ih => simpa using ih
  | dwell _ ih => simpa using ih
  | probe travels touches sets backs ends _ ih => simpa using ih

/-! ### The motions of a path -/

/-- What the segments of an operation tell of its motions: those of its steps whose lines are not
empty, and one of the approach and one of the retreat. -/
def keysOf (p : Probe) : List Key :=
  let stepKeys (steps : List Step) : List Key :=
    (steps.filter fun s => !s.isUnwritten).map fun s => (s.segmentKind, p.id, some s.id)
  stepKeys p.preMoves ++ [(.probe, p.id, none), (.backoff, p.id, none)] ++ stepKeys p.postMoves

theorem map_key_motionsOf {p : Probe} (h : HasNumericMoves p) :
    (motionsOf p).map Motion.key = keysOf p := by
  obtain ⟨hpre, hpost⟩ := List.forall_mem_append.1 h
  simp only [motionsOf, stepMotions, keysOf, filter_isUnwritten hpre, filter_isUnwritten hpost,
    List.map_append, List.map_map]
  rfl

/-- The kinds of steps are not that of a probe. -/
theorem filter_probe_keysOf (p : Probe) :
    (keysOf p).filter (fun k => k.1 = .probe) = [(.probe, p.id, none)] := by
  have hsteps (steps : List Step) : ((steps.filter fun s => !s.isUnwritten).map
      fun s => ((s.segmentKind, p.id, some s.id) : Key)).filter (fun k => k.1 = .probe) = [] := by
    rw [List.filter_eq_nil_iff]
    intro k hk
    obtain ⟨s, -, rfl⟩ := List.mem_map.1 hk
    cases s <;> simp [Step.segmentKind]
  rw [keysOf, List.filter_append, List.filter_append, hsteps, hsteps]
  rfl

theorem filter_probe_eq {path : List Segment} {ops : List Probe}
    (h : path.map Segment.key = ops.flatMap keysOf) :
    (path.filter (·.kind = .probe)).map (·.operation) = ops.map (·.id) := by
  have hkeys : ((path.map Segment.key).filter fun k => k.1 = .probe).map (fun k => k.2.1) =
      (path.filter (·.kind = .probe)).map (·.operation) := by
    rw [List.filter_map, List.map_map]
    rfl
  rw [← hkeys, h, List.filter_flatMap, List.map_flatMap]
  simp only [filter_probe_keysOf]
  exact List.map_eq_flatMap.symm

/-- Whether a path is the one chain of motions that operations make. -/
structure IsChainOf (ops : List Probe) (start : Position) (path : List Segment) : Prop where
  connected : IsConnected start path
  keys : path.map Segment.key = ops.flatMap keysOf
  pauses : ∀ s ∈ path, s.kind = .dwell → s.finish = s.start
  probes : (path.filter (·.kind = .probe)).map (·.operation) = ops.map (·.id)
  contacts : (contacts path).length = ops.length

theorem isChainOf_plan {ops : List Probe} (hmoves : ∀ p ∈ ops, HasNumericMoves p) {start : Position}
    {rapidFeed : Datum} {path : List Segment} (h : plan ops start rapidFeed = .ok path) :
    IsChainOf ops start path := by
  obtain ⟨w', htraces⟩ := traces_plan h
  have hkeys : path.map Segment.key = ops.flatMap keysOf := by
    rw [htraces.keys, motions, List.map_flatMap]
    exact List.flatMap_congr fun p hp => map_key_motionsOf (hmoves p hp)
  have hprobes := filter_probe_eq hkeys
  have hlength := congrArg List.length hprobes
  rw [List.length_map, List.length_map] at hlength
  exact ⟨htraces.isConnected, hkeys, htraces.rests, hprobes, by rw [contacts, List.length_map, hlength]⟩

/-- A planned path is one chain that starts where the plan does.  It has the motions of the
operations one by one: one for every step whose line is not empty, and between those before and
those after it one of the approach and one of the retreat.  Steps with empty lines can be left out.
Over numbers a path is planned, and a step has a line or none, unless a value is beyond all
floats. -/
theorem plan_isChainOf {ops : List Probe} (hmoves : ∀ p ∈ ops, HasNumericMoves p) (start : Position)
    (rapidFeed : Datum) :
    (∀ path, plan ops start rapidFeed = .ok path → IsChainOf ops start path) ∧
    plan (ops.map Probe.written) start rapidFeed = plan ops start rapidFeed ∧
    ((∀ p ∈ ops, p.IsNumeric) → (∀ p ∈ ops, ∀ s ∈ p.preMoves ++ p.postMoves,
        InRange Anything (writeStep s)) ∧
      (start.IsNumeric → rapidFeed.IsNumber → InRange Anything (plan ops start rapidFeed))) := by
  refine ⟨fun path => isChainOf_plan hmoves, ?_, fun hops => ⟨fun p hp s hs => ?_,
    fun hstart hfeed => inRange_plan hops hstart hfeed⟩⟩
  · rw [plan, walkAll_map fun p hp w => walkOperation_written rapidFeed w (hmoves p hp), plan]
  · exact inRange_writeStep (hmoves p hp s hs) fun d hd => (hops p hp).times d (hd ▸ hs)

theorem hasNumericMoves_descent : ∀ p ∈ descent, HasNumericMoves p := by
  have hplaceholder : IsNumeric placeholder := ⟨_, rfl, by simp [ByAxis.empty]⟩
  have hmove : IsNumeric moveAbove := ⟨_, rfl, by decide +kernel⟩
  simp [descent, HasNumericMoves, downward, hplaceholder, hmove]

/-- The placeholders of a sequence leave no trace in its path. -/
theorem plan_isChainOf_descent : (∀ p ∈ descent, HasNumericMoves p) ∧
    ∃ path, plan descent .origin usualRapidFeed = .ok path ∧ IsChainOf descent .origin path ∧
      plan (descent.map Probe.written) .origin usualRapidFeed = .ok path := by
  obtain ⟨path, hplan⟩ := exists_plan_descent
  obtain ⟨hchain, hwritten, -⟩ := plan_isChainOf hasNumericMoves_descent .origin usualRapidFeed
  exact ⟨hasNumericMoves_descent, path, hplan, hchain path hplan, hwritten.trans hplan⟩

/-- A place beyond all floats. -/
def farPlace : Position := { Position.origin with x := .int (10 ^ 400 : Nat) }

def farMove : Step :=
  .rapid {
    axes := .values ⟨[(.x, .int (10 ^ 400 + 1 : Nat))], List.nodup_singleton _⟩
    mode := .absolute
    system := .machine
    description := .text ""
    id := .made }

/-- A move beyond all floats has a segment but no line. -/
theorem plan_farMove : ∃ path, plan [downward [farMove] []] farPlace usualRapidFeed = .ok path ∧
    (path.map Segment.key).head? = some (.rapid, .made, some .made) ∧
    ∀ text, writeStep farMove ≠ .ok text := by
  have hnumeric : ∀ p ∈ [downward [farMove] []], HasNumericMoves p := by
    have hmove : IsNumeric farMove := ⟨_, rfl, by decide +kernel⟩
    simp [HasNumericMoves, downward, hmove]
  have hunwritten : farMove.isUnwritten = false := by decide +kernel
  have hline : (writeStep farMove).isOk = false := by decide +kernel
  have hok : (plan [downward [farMove] []] farPlace usualRapidFeed).isOk = true := by decide +kernel
  obtain ⟨path, hplan⟩ := isOk_iff.1 hok
  refine ⟨path, hplan, ?_, fun text htext => ?_⟩
  · rw [(isChainOf_plan hnumeric hplan).keys]
    simp only [List.flatMap_singleton, keysOf, downward, List.filter_singleton, hunwritten]
    rfl
  · rw [htext] at hline
    cases hline

end Path

end TouchProbe
