import TouchProbe.Path
import TouchProbe.Proofs.Modes

/-!
The position mode that the planner carries, beside the mode of the machine that runs the program.
A program names the incremental mode at every retreat; the planner takes its mode from the steps
alone.
-/

namespace TouchProbe

open Program

namespace Path

/-! ### Walks in parts -/

theorem walkAll_append_eq_ok {α : Type} {walk : Walk → α → Except Fault (Walk × List Segment)}
    {w w' : Walk} {as bs : List α} {path : List Segment}
    (h : walkAll walk w (as ++ bs) = .ok (w', path)) :
    ∃ w₁ p₁ p₂, walkAll walk w as = .ok (w₁, p₁) ∧ walkAll walk w₁ bs = .ok (w', p₂) ∧
      path = p₁ ++ p₂ := by
  induction as generalizing w path with
  | nil => exact ⟨w, [], path, rfl, h, rfl⟩
  | cons a as ih =>
      rw [List.cons_append, walkAll] at h
      obtain ⟨⟨w₁, first⟩, hfirst, h⟩ := bind_eq_ok.1 h
      obtain ⟨⟨w₂, others⟩, hothers, h⟩ := bind_eq_ok.1 h
      obtain ⟨rfl, rfl⟩ := Prod.mk.inj (Except.ok.inj h)
      obtain ⟨w₃, p₁, p₂, hp₁, hp₂, rfl⟩ := ih hothers
      refine ⟨w₃, first ++ p₁, p₂, ?_, hp₂, (List.append_assoc _ _ _).symm⟩
      rw [walkAll]
      exact bind_eq_ok.2 ⟨_, hfirst, bind_eq_ok.2 ⟨_, hp₁, rfl⟩⟩

theorem walkAll_cons_eq_ok {α : Type} {walk : Walk → α → Except Fault (Walk × List Segment)}
    {w w' : Walk} {a : α} {as : List α} {path : List Segment}
    (h : walkAll walk w (a :: as) = .ok (w', path)) :
    ∃ w₁ p₁ p₂, walk w a = .ok (w₁, p₁) ∧ walkAll walk w₁ as = .ok (w', p₂) ∧ path = p₁ ++ p₂ := by
  rw [walkAll] at h
  obtain ⟨⟨w₁, p₁⟩, hp₁, h⟩ := bind_eq_ok.1 h
  obtain ⟨⟨w₂, p₂⟩, hp₂, h⟩ := bind_eq_ok.1 h
  obtain ⟨rfl, rfl⟩ := Prod.mk.inj (Except.ok.inj h)
  exact ⟨w₁, p₁, p₂, hp₁, hp₂, rfl⟩

theorem walkOperation_eq_ok {rapidFeed : Datum} {w w' : Walk} {p : Probe} {path : List Segment}
    (h : walkOperation rapidFeed w p = .ok (w', path)) :
    ∃ w₁ p₁ w₂ p₂ p₃, walkAll (walkStep rapidFeed p.id) w p.preMoves = .ok (w₁, p₁) ∧
      walkProbe rapidFeed p w₁ = .ok (w₂, p₂) ∧
      walkAll (walkStep rapidFeed p.id) w₂ p.postMoves = .ok (w', p₃) ∧ path = p₁ ++ p₂ ++ p₃ := by
  rw [walkOperation] at h
  obtain ⟨⟨w₁, p₁⟩, hp₁, h⟩ := bind_eq_ok.1 h
  obtain ⟨⟨w₂, p₂⟩, hp₂, h⟩ := bind_eq_ok.1 h
  obtain ⟨⟨w₃, p₃⟩, hp₃, h⟩ := bind_eq_ok.1 h
  obtain ⟨rfl, rfl⟩ := Prod.mk.inj (Except.ok.inj h)
  exact ⟨w₁, p₁, w₂, p₂, p₃, hp₁, hp₂, hp₃, rfl⟩

/-! ### The mode of a walk -/

def IsNumeric : Step → Prop
  | .rapid r => ∃ vs, r.axes = .values vs ∧ ∀ e ∈ vs.entries, e.2.toNumber.isOk = true
  | .dwell _ => True

theorem numberEntries_eq {vs : AxisValues} (h : ∀ e ∈ vs.entries, e.2.toNumber.isOk = true) :
    numberEntries vs = vs.entries.map fun e => (e.1, floatOf e.2) := by
  rw [numberEntries, List.filter_eq_self.2 h]

/-- A move whose values are numbers has a line if it has axes. -/
theorem isSome_writtenStep {r : Rapid} (h : IsNumeric (.rapid r)) :
    (writtenStep (.rapid r)).isSome = !r.axes.isEmpty := by
  obtain ⟨vs, hvs, hnum⟩ := h
  rw [writtenStep, hvs, RapidAxes.isEmpty, ByAxis.isEmpty]
  simp only [numberEntries_eq hnum, List.isEmpty_map]
  cases vs.entries.isEmpty <;> rfl

theorem motion_eq_ok {kind : SegmentKind} {w w' : Walk} {finish : Position} {feed : Datum}
    {operation : Ident} {step : Option Ident} {s : Segment}
    (h : motion kind w finish feed operation step = .ok (w', s)) :
    w' = { w with position := finish } ∧
      ∃ duration, s = ⟨kind, w.position, finish, duration, operation, step⟩ := by
  rw [motion] at h
  obtain ⟨distance, -, h⟩ := bind_eq_ok.1 h
  obtain ⟨duration, -, h⟩ := bind_eq_ok.1 h
  obtain ⟨rfl, rfl⟩ := Prod.mk.inj (Except.ok.inj h)
  exact ⟨rfl, duration, rfl⟩

theorem isAbsolute_walkStep {rapidFeed : Datum} {operation : Ident} {w w' : Walk} {s : Step}
    {path : List Segment} (hs : IsNumeric s)
    (h : walkStep rapidFeed operation w s = .ok (w', path)) :
    w'.isAbsolute = nextMode w.isAbsolute (namedMode s) := by
  cases s with
  | rapid r =>
      rw [namedMode, isSome_writtenStep hs]
      rw [walkStep] at h
      cases hempty : r.axes.isEmpty with
      | true =>
          rw [hempty] at h
          obtain ⟨rfl, -⟩ := Prod.mk.inj (Except.ok.inj h)
          rfl
      | false =>
          rw [hempty] at h
          obtain ⟨vs, -, h⟩ := bind_eq_ok.1 h
          obtain ⟨finish, -, h⟩ := bind_eq_ok.1 h
          obtain ⟨⟨w₁, s⟩, hmotion, h⟩ := bind_eq_ok.1 h
          obtain ⟨rfl, -⟩ := Prod.mk.inj (Except.ok.inj h)
          rw [(motion_eq_ok hmotion).1]
          rfl
  | dwell d =>
      rw [walkStep] at h
      cases htime : d.time.isTruthy with
      | false =>
          rw [htime] at h
          obtain ⟨rfl, -⟩ := Prod.mk.inj (Except.ok.inj h)
          rfl
      | true =>
          rw [htime] at h
          obtain ⟨time, -, h⟩ := bind_eq_ok.1 h
          obtain ⟨rfl, -⟩ := Prod.mk.inj (Except.ok.inj h)
          rfl

/-- A probe does not change the mode of a walk. -/
theorem isAbsolute_walkProbe {rapidFeed : Datum} {p : Probe} {w w' : Walk} {path : List Segment}
    (h : walkProbe rapidFeed p w = .ok (w', path)) : w'.isAbsolute = w.isAbsolute := by
  rw [walkProbe] at h
  obtain ⟨travel, -, h⟩ := bind_eq_ok.1 h
  obtain ⟨contact, -, h⟩ := bind_eq_ok.1 h
  obtain ⟨⟨w₁, approach⟩, happroach, h⟩ := bind_eq_ok.1 h
  obtain ⟨origin, -, h⟩ := bind_eq_ok.1 h
  obtain ⟨direction, -, h⟩ := bind_eq_ok.1 h
  obtain ⟨length, -, h⟩ := bind_eq_ok.1 h
  obtain ⟨back, -, h⟩ := bind_eq_ok.1 h
  obtain ⟨retreat, -, h⟩ := bind_eq_ok.1 h
  obtain ⟨⟨w₂, retreating⟩, hretreating, h⟩ := bind_eq_ok.1 h
  obtain ⟨rfl, -⟩ := Prod.mk.inj (Except.ok.inj h)
  rw [(motion_eq_ok hretreating).1]
  change w₁.isAbsolute = _
  rw [(motion_eq_ok happroach).1]

theorem nextMode_over (named mode : PositionMode) :
    nextMode (decide (mode = .absolute)) named = decide (named.over mode = .absolute) := by
  cases named <;> cases mode <;> rfl

/-- The mode of a walk after steps is the one that they name. -/
theorem isAbsolute_walkSteps {rapidFeed : Datum} {operation : Ident} {w w' : Walk}
    {steps : List Step} {path : List Segment} {mode : PositionMode}
    (hsteps : ∀ s ∈ steps, IsNumeric s) (hmode : w.isAbsolute = decide (mode = .absolute))
    (h : walkAll (walkStep rapidFeed operation) w steps = .ok (w', path)) :
    w'.isAbsolute = decide (modeThrough mode steps = .absolute) := by
  induction steps generalizing w path mode with
  | nil =>
      obtain ⟨rfl, -⟩ := Prod.mk.inj (Except.ok.inj h)
      exact hmode
  | cons s steps ih =>
      obtain ⟨w₁, p₁, p₂, hfirst, hrest, -⟩ := walkAll_cons_eq_ok h
      refine ih (fun t ht => hsteps t (List.mem_cons_of_mem s ht)) ?_ hrest
      rw [isAbsolute_walkStep (hsteps s List.mem_cons_self) hfirst, hmode, nextMode_over]

/-- Whether the values of all rapid moves of an operation are numbers. -/
def HasNumericMoves (p : Probe) : Prop := ∀ s ∈ p.preMoves ++ p.postMoves, IsNumeric s

def stepsOf (ops : List Probe) : List Step := ops.flatMap fun p => p.preMoves ++ p.postMoves

theorem isAbsolute_walkOperations {rapidFeed : Datum} {w w' : Walk} {ops : List Probe}
    {path : List Segment} {mode : PositionMode} (hops : ∀ p ∈ ops, HasNumericMoves p)
    (hmode : w.isAbsolute = decide (mode = .absolute))
    (h : walkAll (walkOperation rapidFeed) w ops = .ok (w', path)) :
    w'.isAbsolute = decide (modeThrough mode (stepsOf ops) = .absolute) := by
  induction ops generalizing w path mode with
  | nil =>
      obtain ⟨rfl, -⟩ := Prod.mk.inj (Except.ok.inj h)
      exact hmode
  | cons p ops ih =>
      obtain ⟨w₁, p₁, p₂, hfirst, hrest, -⟩ := walkAll_cons_eq_ok h
      obtain ⟨w₂, q₁, w₃, q₂, q₃, hpre, hprobe, hpost, -⟩ := walkOperation_eq_ok hfirst
      obtain ⟨hnpre, hnpost⟩ := List.forall_mem_append.1 (hops p List.mem_cons_self)
      have hw₂ := isAbsolute_walkSteps hnpre hmode hpre
      have hw₃ : w₃.isAbsolute = _ := (isAbsolute_walkProbe hprobe).trans hw₂
      have hw₁ := isAbsolute_walkSteps hnpost hw₃ hpost
      have hall := ih (fun q hq => hops q (List.mem_cons_of_mem p hq)) hw₁ hrest
      rwa [← modeThrough_append, ← modeThrough_append, ← List.append_assoc] at hall

/-! ### Places of moves -/

/-- A rapid move of a probe sequence, with what comes before and after it. -/
structure Place where
  before : List Probe
  probe : Probe
  after : List Probe
  /-- Whether the move comes after the probe of its operation. -/
  isAfter : Bool
  earlier : List Step
  move : Rapid
  later : List Step
  moves_eq : (if isAfter then probe.postMoves else probe.preMoves) = earlier ++ .rapid move :: later

namespace Place

variable (place : Place)

def operations : List Probe := place.before ++ place.probe :: place.after

/-- All steps before the move. -/
def steps : List Step :=
  stepsOf place.before ++ (if place.isAfter then place.probe.preMoves else []) ++ place.earlier

/-- The steps between the latest probe and the move. -/
def stepsSince : List Step :=
  if place.isAfter then place.earlier else movesSince place.before place.earlier

theorem move_mem : .rapid place.move ∈ place.probe.preMoves ++ place.probe.postMoves := by
  have hmoves := place.moves_eq
  rw [List.mem_append]
  cases hafter : place.isAfter with
  | true =>
      rw [hafter, if_pos rfl] at hmoves
      exact .inr (by simp [hmoves])
  | false =>
      rw [hafter, if_neg Bool.false_ne_true] at hmoves
      exact .inl (by simp [hmoves])

def number : Nat := 1 + place.before.length

/-- The lines of the program before the one of the move. -/
def ahead (settings : Settings) (count : Nat) : List Line :=
  writtenHead settings ++ writtenOperations count 1 place.before ++
    (if place.isAfter then
      writtenToProbe count place.number place.probe ++ [.banner (postBanner place.number)]
    else
      [.banner (headBanner place.number place.probe.axis), .banner (preBanner place.number)]) ++
    place.earlier.filterMap writtenStep

/-- The walk through what comes before the moves of the operation that the move is one of. -/
def walkToMoves (rapidFeed : Datum) (w : Walk) : Except Fault Walk :=
  if place.isAfter then do
    let (w, _) ← walkAll (walkStep rapidFeed place.probe.id) w place.probe.preMoves
    let (w, _) ← walkProbe rapidFeed place.probe w
    return w
  else .ok w

def walk (start : Position) (rapidFeed : Datum) : Except Fault Walk := do
  let (w, _) ← walkAll (walkOperation rapidFeed) { position := start } place.before
  let w ← place.walkToMoves rapidFeed w
  let (w, _) ← walkAll (walkStep rapidFeed place.probe.id) w place.earlier
  return w

end Place

/-! ### The mode of the program at a place -/

theorem writtenOperations_append (count number : Nat) (ops : List Probe) (p : Probe)
    (others : List Probe) : writtenOperations count number (ops ++ p :: others) =
      writtenOperations count number ops ++ writtenOperation count (number + ops.length) p ++
        writtenOperations count (number + ops.length + 1) others := by
  induction ops generalizing number with
  | nil => rfl
  | cons q ops ih =>
      rw [List.cons_append, writtenOperations, ih, writtenOperations, List.length_cons]
      simp [Nat.add_assoc, Nat.add_comm 1]

theorem writtenMoves_split {earlier later : List Step} {s : Step} {own : Line}
    (h : writtenStep s = some own) (banner : String) :
    writtenMoves (earlier ++ s :: later) banner = .banner banner :: earlier.filterMap writtenStep ++
      own :: (later.filterMap writtenStep ++ [.blank]) := by
  have hne : (earlier ++ s :: later).isEmpty = false := by simp
  rw [writtenMoves, hne]
  simp [h]

/-- The line of a move stands right behind the lines ahead of it. -/
theorem written_place (place : Place) {own : Line} (h : writtenStep (.rapid place.move) = some own)
    (settings : Settings) (count : Nat) : ∃ rest,
      writtenHead settings ++ writtenOperations count 1 place.operations ++ footLines =
        place.ahead settings count ++ own :: rest := by
  have hmoves := place.moves_eq
  rw [Place.operations, writtenOperations_append, Place.ahead, Place.number, writtenOperation]
  cases hafter : place.isAfter with
  | true =>
      rw [hafter, if_pos rfl] at hmoves
      rw [hmoves, writtenMoves_split h]
      refine ⟨?_, ?_⟩
      rotate_left
      · simp only [if_pos, List.append_assoc, List.cons_append, List.nil_append]
        rfl
  | false =>
      rw [hafter, if_neg Bool.false_ne_true] at hmoves
      rw [writtenToProbe, hmoves, writtenMoves_split h]
      refine ⟨?_, ?_⟩
      rotate_left
      · simp only [Bool.false_eq_true, if_false, List.append_assoc, List.cons_append,
          List.nil_append]
        rfl

/-- The program reaches a move in the mode that the steps since the latest probe leave. -/
theorem modeFrom_ahead (place : Place) (settings : Settings) (count : Nat) :
    modeFrom .none ((place.ahead settings count).map Line.body) =
      modeThrough .relative place.stepsSince := by
  rw [Place.ahead, List.map_append, List.map_append, List.map_append, modeFrom_append,
    modeFrom_append, modeFrom_append, (turns_head settings).mode, modeFrom_operations,
    (turns_steps place.earlier).mode, Place.stepsSince]
  cases place.isAfter with
  | true =>
      have hbanner := Turns.banner (postBanner_lines place.number).2
      rw [if_pos rfl, if_pos rfl, List.map_append, modeFrom_append, modeFrom_toProbe, hbanner.mode]
      rfl
  | false =>
      have hbanners := (Turns.banner (headBanner_lines place.number place.probe.axis).2).append
        (Turns.banner (preBanner_lines place.number).2)
      rw [if_neg Bool.false_ne_true, if_neg Bool.false_ne_true, modeThrough_movesSince]
      exact congrArg (modeThrough · place.earlier) (hbanners.mode _)

/-! ### The mode of the planner at a place -/

/-- The planner reaches a move in the mode that all steps before it leave. -/
theorem isAbsolute_walk {place : Place} (hops : ∀ p ∈ place.operations, HasNumericMoves p)
    {start : Position} {rapidFeed : Datum} {w : Walk} (h : place.walk start rapidFeed = .ok w) :
    w.isAbsolute = decide (modeThrough .relative place.steps = .absolute) := by
  rw [Place.operations, List.forall_mem_append, List.forall_mem_cons] at hops
  obtain ⟨hbefore, hprobe, -⟩ := hops
  obtain ⟨hpre, hpost⟩ := List.forall_mem_append.1 hprobe
  have hmoves := place.moves_eq
  rw [Place.walk] at h
  obtain ⟨⟨w₁, p₁⟩, hw₁, h⟩ := bind_eq_ok.1 h
  obtain ⟨w₂, hw₂, h⟩ := bind_eq_ok.1 h
  obtain ⟨⟨w₃, p₃⟩, hw₃, h⟩ := bind_eq_ok.1 h
  obtain rfl := Except.ok.inj h
  rw [Place.walkToMoves] at hw₂
  have hmode₁ : w₁.isAbsolute =
      decide (modeThrough .relative (stepsOf place.before) = .absolute) :=
    isAbsolute_walkOperations hbefore rfl hw₁
  rw [Place.steps, modeThrough_append, modeThrough_append]
  cases hafter : place.isAfter with
  | true =>
      rw [hafter, if_pos rfl] at hmoves hw₂
      obtain ⟨⟨w₄, p₄⟩, hw₄, hw₂⟩ := bind_eq_ok.1 hw₂
      obtain ⟨⟨w₅, p₅⟩, hw₅, hw₂⟩ := bind_eq_ok.1 hw₂
      obtain rfl := Except.ok.inj hw₂
      have hearlier : ∀ s ∈ place.earlier, IsNumeric s := by
        rw [hmoves] at hpost
        exact (List.forall_mem_append.1 hpost).1
      have hmode₂ := (isAbsolute_walkProbe hw₅).trans (isAbsolute_walkSteps hpre hmode₁ hw₄)
      rw [if_pos rfl]
      exact isAbsolute_walkSteps hearlier hmode₂ hw₃
  | false =>
      rw [hafter, if_neg Bool.false_ne_true] at hmoves hw₂
      obtain rfl := Except.ok.inj hw₂
      have hearlier : ∀ s ∈ place.earlier, IsNumeric s := by
        rw [hmoves] at hpre
        exact (List.forall_mem_append.1 hpre).1
      rw [if_neg Bool.false_ne_true]
      exact isAbsolute_walkSteps hearlier hmode₁ hw₃

/-- A path that is planned passes through every place of its sequence. -/
theorem walk_of_plan {place : Place} {start : Position} {rapidFeed : Datum} {path : List Segment}
    (h : plan place.operations start rapidFeed = .ok path) :
    ∃ w w' p₁ p₂ p₃, place.walk start rapidFeed = .ok w ∧
      walkStep rapidFeed place.probe.id w (.rapid place.move) = .ok (w', p₂) ∧
      path = p₁ ++ p₂ ++ p₃ := by
  have hmoves := place.moves_eq
  obtain ⟨⟨w', p⟩, hall, rfl⟩ := map_eq_ok.1 h
  obtain ⟨w₁, p₁, p₂, hbefore, hrest, rfl⟩ := walkAll_append_eq_ok hall
  obtain ⟨w₂, q₁, q₂, hoperation, -, rfl⟩ := walkAll_cons_eq_ok hrest
  obtain ⟨w₃, a₁, w₄, a₂, a₃, hpre, hprobe, hpost, rfl⟩ := walkOperation_eq_ok hoperation
  cases hafter : place.isAfter with
  | true =>
      rw [hafter, if_pos rfl] at hmoves
      rw [hmoves] at hpost
      obtain ⟨w₅, b₁, b₂, hearlier, hlater, rfl⟩ := walkAll_append_eq_ok hpost
      obtain ⟨w₆, c₁, c₂, hmove, -, rfl⟩ := walkAll_cons_eq_ok hlater
      refine ⟨w₅, w₆, p₁ ++ (a₁ ++ a₂ ++ b₁), c₁, c₂ ++ q₂, ?_, hmove, by simp⟩
      have hto : place.walkToMoves rapidFeed w₁ = .ok w₄ := by
        rw [Place.walkToMoves, hafter, if_pos rfl]
        exact bind_eq_ok.2 ⟨_, hpre, bind_eq_ok.2 ⟨_, hprobe, rfl⟩⟩
      exact bind_eq_ok.2 ⟨_, hbefore, bind_eq_ok.2 ⟨_, hto, bind_eq_ok.2 ⟨_, hearlier, rfl⟩⟩⟩
  | false =>
      rw [hafter, if_neg Bool.false_ne_true] at hmoves
      rw [hmoves] at hpre
      obtain ⟨w₅, b₁, b₂, hearlier, hlater, rfl⟩ := walkAll_append_eq_ok hpre
      obtain ⟨w₆, c₁, c₂, hmove, -, rfl⟩ := walkAll_cons_eq_ok hlater
      refine ⟨w₅, w₆, p₁ ++ b₁, c₁, c₂ ++ a₂ ++ a₃ ++ q₂, ?_, hmove, by simp⟩
      have hto : place.walkToMoves rapidFeed w₁ = .ok w₁ := by
        rw [Place.walkToMoves, hafter, if_neg Bool.false_ne_true]
      exact bind_eq_ok.2 ⟨_, hbefore, bind_eq_ok.2 ⟨_, hto, bind_eq_ok.2 ⟨_, hearlier, rfl⟩⟩⟩

/-! ### Increments and coordinates -/

/-- The end of a move whose values are increments. -/
def movedBy : Position → List (Axis × Datum) → Except Fault Position
  | here, [] => .ok here
  | here, e :: rest => do movedBy (here.set e.1 (← (here.get e.1).plus e.2)) rest

/-- The end of a move whose values are coordinates that count from an origin. -/
def movedTo (origin : Position) : Position → List (Axis × Datum) → Except Fault Position
  | here, [] => .ok here
  | here, e :: rest => do movedTo origin (here.set e.1 (← e.2.plus (origin.get e.1))) rest

theorem destination_eq (w : Walk) {system : CoordinateSystem} (h : system ≠ .machine)
    (here : Position) (es : List (Axis × Datum)) : destination w system here es =
      if w.isAbsolute then movedTo w.origin here es else movedBy here es := by
  induction es generalizing here with
  | nil => cases hw : w.isAbsolute <;> rfl
  | cons e es ih =>
      rw [destination, target, if_neg h]
      cases hw : w.isAbsolute with
      | true =>
          simp only [ih, hw, if_true]
          rfl
      | false =>
          simp only [ih, hw, Bool.false_eq_true, if_false]
          rfl

/-- A move that names neither a mode nor machine coordinates goes by the mode of the walk. -/
theorem walkStep_modeless {rapidFeed : Datum} {operation : Ident} {w w' : Walk} {r : Rapid}
    {path : List Segment} (hmode : r.mode = .none) (hsystem : r.system ≠ .machine)
    {vs : AxisValues} (hvs : r.axes = .values vs) (hne : vs.isEmpty = false)
    (h : walkStep rapidFeed operation w (.rapid r) = .ok (w', path)) :
    ∃ finish duration,
      (if w.isAbsolute then movedTo w.origin w.position vs.entries
        else movedBy w.position vs.entries) = .ok finish ∧
      path = [⟨.rapid, w.position, finish, duration, operation, some r.id⟩] := by
  rw [walkStep, hvs, RapidAxes.isEmpty, hne, hmode] at h
  obtain ⟨ws, hws, h⟩ := bind_eq_ok.1 h
  obtain rfl := Except.ok.inj hws
  obtain ⟨finish, hfinish, h⟩ := bind_eq_ok.1 h
  obtain ⟨⟨w₁, s⟩, hmotion, h⟩ := bind_eq_ok.1 h
  obtain ⟨duration, rfl⟩ := (motion_eq_ok hmotion).2
  obtain ⟨-, rfl⟩ := Prod.mk.inj (Except.ok.inj h)
  rw [destination_eq _ hsystem] at hfinish
  exact ⟨finish, duration, hfinish, rfl⟩

/-! ### The two modes -/

theorem modeThrough_over (mode : PositionMode) (steps : List Step) :
    modeThrough mode steps = (modeThrough .none steps).over mode := by
  induction steps using List.reverseRecOn with
  | nil => rfl
  | append_singleton steps s ih =>
      rw [modeThrough_append, modeThrough_append, ih]
      change (namedMode s).over _ = ((namedMode s).over _).over mode
      cases namedMode s <;> rfl

theorem stepsSince_suffix (place : Place) : ∃ init, place.steps = init ++ place.stepsSince := by
  rw [Place.steps, Place.stepsSince]
  cases place.isAfter with
  | true => exact ⟨_, rfl⟩
  | false =>
      rw [if_neg Bool.false_ne_true, if_neg Bool.false_ne_true, List.append_nil, movesSince]
      rcases List.eq_nil_or_concat place.before with hbefore | ⟨init, p, hbefore⟩
      · exact ⟨[], by rw [hbefore]; rfl⟩
      · refine ⟨stepsOf init ++ p.preMoves, ?_⟩
        rw [hbefore, List.concat_eq_append, List.getLast?_concat]
        simp [stepsOf]

/-- The modes of the program and of the planner at a place differ exactly if nothing names a mode
since the latest probe and the last mode that was named before it is the absolute one. -/
theorem modes_agree_iff (place : Place) :
    (modeThrough .relative place.steps ≠ .absolute ↔
        modeThrough .relative place.stepsSince = .relative) ↔
      ¬ (modeThrough .none place.stepsSince = .none ∧
        modeThrough .none place.steps = .absolute) := by
  obtain ⟨init, hinit⟩ := stepsSince_suffix place
  rw [modeThrough_over .relative place.steps, modeThrough_over .relative place.stepsSince, hinit,
    modeThrough_append, modeThrough_over (modeThrough .none init)]
  cases modeThrough .none place.stepsSince <;> cases modeThrough .none init <;> decide

/-- What the program and the planner come to at a move that names neither a mode nor machine
coordinates: the line of the move, its segment, and the two modes. -/
theorem reaches_place (place : Place) {settings : Settings} {text : String} {start : Position}
    {rapidFeed : Datum} {path : List Segment}
    (hwrite : write place.operations settings = .ok text)
    (hplan : plan place.operations start rapidFeed = .ok path)
    (hlines : ∀ p ∈ place.operations, HasOneLiners p)
    (hnumeric : ∀ p ∈ place.operations, HasNumericMoves p)
    (hmode : place.move.mode = .none) (hsystem : place.move.system ≠ .machine)
    (haxes : place.move.axes.isEmpty = false) :
    ∃ vs w finish duration count own rest,
      place.move.axes = .values vs ∧
      linesOf text = (place.ahead settings count).map Line.body ++ own.body :: rest ∧
      writtenStep (.rapid place.move) = some own ∧
      place.walk start rapidFeed = .ok w ∧
      ⟨.rapid, w.position, finish, duration, place.probe.id, some place.move.id⟩ ∈ path ∧
      (if w.isAbsolute then movedTo w.origin w.position vs.entries
        else movedBy w.position vs.entries) = .ok finish ∧
      w.isAbsolute = decide (modeThrough .relative place.steps = .absolute) ∧
      modeFrom .none ((place.ahead settings count).map Line.body) =
        modeThrough .relative place.stepsSince := by
  have hmove : IsNumeric (.rapid place.move) :=
    hnumeric place.probe (by simp [Place.operations]) _ place.move_mem
  obtain ⟨vs, hvs, -⟩ := id hmove
  rw [hvs] at haxes
  obtain ⟨w, w', p₁, p₂, p₃, hwalk, hstep, rfl⟩ := walk_of_plan hplan
  obtain ⟨finish, duration, hfinish, rfl⟩ := walkStep_modeless hmode hsystem hvs haxes hstep
  have hsome := isSome_writtenStep hmove
  rw [hvs, haxes] at hsome
  obtain ⟨own, hown⟩ := Option.isSome_iff_exists.1 hsome
  obtain ⟨count, -, htext⟩ := linesOf_write hwrite hlines
  obtain ⟨rest, hrest⟩ := written_place place hown settings count
  rw [hrest, List.map_append, List.map_cons, List.append_assoc, List.cons_append] at htext
  exact ⟨vs, w, finish, duration, count, own, _, hvs, htext, hown, hwalk, by simp, hfinish,
    isAbsolute_walk hnumeric hwalk, modeFrom_ahead place settings count⟩

/-- A move that names neither a mode nor machine coordinates: the planner takes its values as
increments exactly where the program does, unless nothing names a mode since the latest probe and
the last mode that was named before it is the absolute one.  There the program, which has
retreated, goes by increments and the planner by coordinates. -/
theorem planned_mode_iff (place : Place) {settings : Settings} {text : String} {start : Position}
    {rapidFeed : Datum} {path : List Segment}
    (hwrite : write place.operations settings = .ok text)
    (hplan : plan place.operations start rapidFeed = .ok path)
    (hlines : ∀ p ∈ place.operations, HasOneLiners p)
    (hnumeric : ∀ p ∈ place.operations, HasNumericMoves p)
    (hmode : place.move.mode = .none) (hsystem : place.move.system ≠ .machine)
    (haxes : place.move.axes.isEmpty = false) :
    ∃ vs w finish duration count own rest,
      place.move.axes = .values vs ∧
      linesOf text = (place.ahead settings count).map Line.body ++ own.body :: rest ∧
      writtenStep (.rapid place.move) = some own ∧
      place.walk start rapidFeed = .ok w ∧
      ⟨.rapid, w.position, finish, duration, place.probe.id, some place.move.id⟩ ∈ path ∧
      (if w.isAbsolute then movedTo w.origin w.position vs.entries
        else movedBy w.position vs.entries) = .ok finish ∧
      ((w.isAbsolute = false ↔
          modeFrom .none ((place.ahead settings count).map Line.body) = .relative) ↔
        ¬ (modeThrough .none place.stepsSince = .none ∧
          modeThrough .none place.steps = .absolute)) := by
  obtain ⟨vs, w, finish, duration, count, own, rest, hvs, htext, hown, hwalk, hpath, hfinish,
    hplanned, hwritten⟩ := reaches_place place hwrite hplan hlines hnumeric hmode hsystem haxes
  refine ⟨vs, w, finish, duration, count, own, rest, hvs, htext, hown, hwalk, hpath, hfinish, ?_⟩
  rw [hplanned, hwritten, decide_eq_false_iff_not]
  exact modes_agree_iff place

/-- A probe with an absolute move before it and a move after it that names no mode. -/
def carriedOver (mode : PositionMode) : Place where
  before := []
  probe := downward [moveX mode .none] [moveX .none .none]
  after := []
  isAfter := true
  earlier := []
  move :=
    { axes := .values ⟨[(.x, .int 5)], List.nodup_singleton Axis.x⟩
      mode := .none
      system := .none
      description := .text "Move over (the stock)"
      id := .made }
  later := []
  moves_eq := rfl

section CarriedOver

variable (mode : PositionMode)

theorem exists_write_carriedOver :
    ∃ text, write (carriedOver mode).operations Settings.default = .ok text :=
  exists_write_downward _ _ (by simp [isPlainStep_moveX]) (by simp [isPlainStep_moveX])

theorem exists_plan_carriedOver :
    ∃ path, plan (carriedOver mode).operations .origin usualRapidFeed = .ok path := by
  have hok : (plan (carriedOver mode).operations .origin usualRapidFeed).isOk = true := by
    cases mode <;> decide +kernel
  exact isOk_iff.1 hok

theorem hasOneLiners_carriedOver : ∀ p ∈ (carriedOver mode).operations, HasOneLiners p := by
  intro p hp
  obtain rfl := List.mem_singleton.1 hp
  exact hasOneLiners_downward (by simp)

theorem hasNumericMoves_carriedOver :
    ∀ p ∈ (carriedOver mode).operations, HasNumericMoves p := by
  intro p hp
  obtain rfl := List.mem_singleton.1 hp
  have hmove (mode : PositionMode) : IsNumeric (moveX mode .none) := ⟨_, rfl, by decide +kernel⟩
  simp [HasNumericMoves, carriedOver, downward, hmove]

end CarriedOver

theorem planned_mode_relative : ∃ text path,
    write (carriedOver .relative).operations Settings.default = .ok text ∧
      plan (carriedOver .relative).operations .origin usualRapidFeed = .ok path ∧
      ∃ vs w finish duration count own rest,
        (carriedOver .relative).move.axes = .values vs ∧
        linesOf text = ((carriedOver .relative).ahead Settings.default count).map Line.body ++
          own.body :: rest ∧
        writtenStep (.rapid (carriedOver .relative).move) = some own ∧
        (carriedOver .relative).walk .origin usualRapidFeed = .ok w ∧
        ⟨.rapid, w.position, finish, duration, .made, some .made⟩ ∈ path ∧
        (if w.isAbsolute then movedTo w.origin w.position vs.entries
          else movedBy w.position vs.entries) = .ok finish ∧
        ((w.isAbsolute = false ↔ modeFrom .none
            (((carriedOver .relative).ahead Settings.default count).map Line.body) = .relative) ↔
          ¬ (modeThrough .none (carriedOver .relative).stepsSince = .none ∧
            modeThrough .none (carriedOver .relative).steps = .absolute)) := by
  obtain ⟨text, hwrite⟩ := exists_write_carriedOver .relative
  obtain ⟨path, hplan⟩ := exists_plan_carriedOver .relative
  exact ⟨text, path, hwrite, hplan, planned_mode_iff (carriedOver .relative) hwrite hplan
    (hasOneLiners_carriedOver .relative) (hasNumericMoves_carriedOver .relative) rfl (by decide) rfl⟩

/-- An absolute move before a probe is carried over it by the planner, but not by the program. -/
theorem planned_mode_carried_over : ∃ text path w count own rest,
    write (carriedOver .absolute).operations Settings.default = .ok text ∧
      plan (carriedOver .absolute).operations .origin usualRapidFeed = .ok path ∧
      linesOf text = ((carriedOver .absolute).ahead Settings.default count).map Line.body ++
        Line.body own :: rest ∧
      writtenStep (.rapid (carriedOver .absolute).move) = some own ∧
      modeFrom .none (((carriedOver .absolute).ahead Settings.default count).map Line.body) =
        .relative ∧
      (carriedOver .absolute).walk .origin usualRapidFeed = .ok w ∧ w.isAbsolute = true := by
  obtain ⟨text, hwrite⟩ := exists_write_carriedOver .absolute
  obtain ⟨path, hplan⟩ := exists_plan_carriedOver .absolute
  obtain ⟨vs, w, finish, duration, count, own, rest, -, htext, hown, hwalk, -, -, hplanned,
    hwritten⟩ := reaches_place (carriedOver .absolute) hwrite hplan
    (hasOneLiners_carriedOver .absolute) (hasNumericMoves_carriedOver .absolute) rfl (by decide) rfl
  refine ⟨text, path, w, count, own, rest, hwrite, hplan, htext, hown, ?_, hwalk, ?_⟩
  · rw [hwritten]
    decide
  · rw [hplanned]
    decide

end Path

end TouchProbe
