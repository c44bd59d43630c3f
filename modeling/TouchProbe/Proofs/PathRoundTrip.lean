import TouchProbe.Proofs.RoundTrip
import TouchProbe.Proofs.ZeroSigns

/-!
What a program keeps of the planned path.  A walk that reads its operations from the program makes
the same motions as one over the operations themselves, as long as no offset is negative and no
approach of length zero goes back; what a program does not show are these two signs.
-/

namespace TouchProbe

/-- Whether two segments are the same motion, whatever they belong to. -/
structure Segment.Alike (s t : Segment) : Prop where
  kind : s.kind = t.kind
  start : s.start.Alike t.start
  finish : s.finish.Alike t.finish
  duration : s.duration = t.duration

namespace Path

open Number Program

/-- Whether two paths are the same motions, or the same fault. -/
def PathsAlike : Except Fault (List Segment) → Except Fault (List Segment) → Prop :=
  Alongside (List.Forall₂ Segment.Alike)

structure Walk.Alike (w w' : Walk) : Prop where
  position : w.position.Alike w'.position
  isAbsolute : w.isAbsolute = w'.isAbsolute
  origin : w.origin.Alike w'.origin

/-- Whether two walks have come to the same, each by its segments. -/
def WalkedAlike (r r' : Walk × List Segment) : Prop :=
  r.1.Alike r'.1 ∧ List.Forall₂ Segment.Alike r.2 r'.2

/-- Whether axes lead to the same position. -/
def AxesAlike (axes axes' : RapidAxes) : Prop :=
  ∃ vs ws, axes = .values vs ∧ axes' = .values ws ∧
    List.Forall₂ (fun e f => e.1 = f.1 ∧ e.2.Alike f.2) vs.entries ws.entries

def StepsAlike : Step → Step → Prop
  | .rapid r, .rapid s => AxesAlike r.axes s.axes ∧ r.mode = s.mode ∧ r.system = s.system
  | .dwell d, .dwell e => d.time = e.time
  | _, _ => False

/-- The travel of the retreat, with the sign of the approach. -/
def signedBackoff (p : Probe) : Except Fault Number := do
  (← p.direction.toNumber).mul (← p.backoff.toNumber)

theorem bind_signedBackoff {α : Type} (p : Probe) (next : Number → Except Fault α) :
    (do let n ← p.direction.toNumber; let m ← p.backoff.toNumber; let back ← n.mul m; next back) =
      signedBackoff p >>= next := by
  simp only [signedBackoff, bind_assoc]

structure ProbesAlike (p q : Probe) : Prop where
  axis : p.axis = q.axis
  travel : Alongside Number.Alike p.signedDistance q.signedDistance
  feedRate : p.feedRate = q.feedRate
  offset : p.offset.Alike q.offset
  retreat : Alongside Number.Alike (signedBackoff p) (signedBackoff q)
  preMoves : List.Forall₂ StepsAlike p.preMoves q.preMoves
  postMoves : List.Forall₂ StepsAlike p.postMoves q.postMoves

/-! ### The walk -/

section Walk

variable {w w' : Walk} (hw : w.Alike w')

include hw

theorem motion_alike (kind : SegmentKind) {p q : Position} (h : p.Alike q) (feed : Datum)
    (i j : Ident) (s t : Option Ident) :
    Alongside (fun r r' => r.1.Alike r'.1 ∧ r.2.Alike r'.2) (motion kind w p feed i s)
      (motion kind w' q feed j t) := by
  refine Alongside.eq_bind (hw.position.distance h) fun d => Alongside.eq_bind rfl fun duration => ?_
  exact ⟨⟨h, hw.isAbsolute, hw.origin⟩, rfl, hw.position, h, rfl⟩

theorem target_alike (system : CoordinateSystem) {p q : Position} (h : p.Alike q) (a : Axis)
    {v v' : Datum} (hv : v.Alike v') :
    Alongside Datum.Alike (target w system p a v) (target w' system q a v') := by
  rw [target, target, hw.isAbsolute]
  by_cases hsystem : system = .machine
  · rw [if_pos hsystem, if_pos hsystem]
    exact hv
  · rw [if_neg hsystem, if_neg hsystem]
    cases w'.isAbsolute with
    | true => exact hv.plus (hw.origin a)
    | false => exact (h a).plus hv

theorem destination_alike (system : CoordinateSystem) {es es' : List (Axis × Datum)}
    (hes : List.Forall₂ (fun e f => e.1 = f.1 ∧ e.2.Alike f.2) es es') {p q : Position}
    (h : p.Alike q) :
    Alongside Position.Alike (destination w system p es) (destination w' system q es') := by
  induction hes generalizing p q with
  | nil => exact h
  | @cons e f es es' hef _ ih =>
      obtain ⟨haxis, hvalue⟩ := hef
      rw [destination, destination, ← haxis]
      refine (target_alike hw system h e.1 hvalue).bind fun v v' hv => ?_
      exact ih (h.set e.1 hv)

theorem walkStep_alike (rapidFeed : Datum) (i j : Ident) {s t : Step} (h : StepsAlike s t) :
    Alongside WalkedAlike (walkStep rapidFeed i w s) (walkStep rapidFeed j w' t) := by
  cases s with
  | rapid r =>
      cases t with
      | dwell e => exact h.elim
      | rapid r' =>
          obtain ⟨⟨vs, ws, hvs, hws, hvalues⟩, hmode, hsystem⟩ := h
          have hempty : ws.isEmpty = vs.isEmpty := by
            rw [ByAxis.isEmpty, ByAxis.isEmpty]
            generalize vs.entries = es at hvalues
            generalize ws.entries = fs at hvalues
            cases hvalues <;> rfl
          rw [walkStep, walkStep, hvs, hws, ← hmode, ← hsystem, RapidAxes.isEmpty, RapidAxes.isEmpty,
            hempty]
          cases vs.isEmpty with
          | true => exact ⟨hw, .nil⟩
          | false =>
              -- The step sets the mode first, and all of its values are taken in that mode.
              have hset : Walk.Alike { w with isAbsolute := nextMode w.isAbsolute r.mode }
                  { w' with isAbsolute := nextMode w'.isAbsolute r.mode } :=
                ⟨hw.position, by rw [hw.isAbsolute], hw.origin⟩
              refine (destination_alike hset r.system hvalues hset.position).bind fun p q hpq => ?_
              refine (motion_alike hset .rapid hpq rapidFeed i j _ _).bind fun r r' hr => ?_
              exact ⟨hr.1, .cons hr.2 .nil⟩
  | dwell d =>
      cases t with
      | rapid r => exact h.elim
      | dwell e =>
          have htime : d.time = e.time := h
          rw [walkStep, walkStep, htime]
          cases e.time.isTruthy with
          | false => exact ⟨hw, .nil⟩
          | true =>
              refine Alongside.eq_bind rfl fun time => ?_
              exact ⟨hw, .cons ⟨rfl, hw.position, hw.position, rfl⟩ .nil⟩

theorem walkProbe_alike (rapidFeed : Datum) {p q : Probe} (h : ProbesAlike p q) :
    Alongside WalkedAlike (walkProbe rapidFeed p w) (walkProbe rapidFeed q w') := by
  rw [walkProbe, walkProbe, ← h.axis, ← h.feedRate]
  refine h.travel.bind fun m n htravel => ?_
  refine ((hw.position p.axis).plus (.ofNumber htravel)).bind fun c c' hcontact => ?_
  refine (motion_alike hw .probe (hw.position.set p.axis hcontact) p.feedRate p.id q.id none
    none).bind fun r r' happroach => ?_
  obtain ⟨hwalk, hsegment⟩ := happroach
  refine (hcontact.minus h.offset).bind fun o o' hoffset => ?_
  have hset : Walk.Alike { r.1 with origin := r.1.origin.set p.axis o }
      { r'.1 with origin := r'.1.origin.set p.axis o' } :=
    ⟨hwalk.position, hwalk.isAbsolute, hwalk.origin.set p.axis hoffset⟩
  rw [bind_signedBackoff, bind_signedBackoff]
  refine h.retreat.bind fun m n hretreat => ?_
  refine (hcontact.minus (.ofNumber hretreat)).bind fun b b' hback => ?_
  refine (motion_alike hset .backoff (hwalk.position.set p.axis hback) rapidFeed p.id q.id none
    none).bind fun s s' hretreating => ?_
  exact ⟨hretreating.1, .cons hsegment (.cons hretreating.2 .nil)⟩

end Walk

theorem walkAll_alike {α β : Type} {R : α → β → Prop}
    {walk : Walk → α → Except Fault (Walk × List Segment)}
    {walk' : Walk → β → Except Fault (Walk × List Segment)}
    (hwalk : ∀ w w' a b, w.Alike w' → R a b → Alongside WalkedAlike (walk w a) (walk' w' b))
    {as : List α} {bs : List β} (h : List.Forall₂ R as bs) {w w' : Walk} (hw : w.Alike w') :
    Alongside WalkedAlike (walkAll walk w as) (walkAll walk' w' bs) := by
  induction h generalizing w w' with
  | nil => exact ⟨hw, .nil⟩
  | cons hab _ ih =>
      refine (hwalk _ _ _ _ hw hab).bind fun r r' hfirst => ?_
      refine (ih hfirst.1).bind fun s s' hothers => ?_
      exact ⟨hothers.1, List.rel_append hfirst.2 hothers.2⟩

theorem walkOperation_alike (rapidFeed : Datum) {w w' : Walk} (hw : w.Alike w') {p q : Probe}
    (h : ProbesAlike p q) :
    Alongside WalkedAlike (walkOperation rapidFeed w p) (walkOperation rapidFeed w' q) := by
  have hsteps (w w' : Walk) (s t : Step) (hw : w.Alike w') (hst : StepsAlike s t) :
      Alongside WalkedAlike (walkStep rapidFeed p.id w s) (walkStep rapidFeed q.id w' t) :=
    walkStep_alike hw rapidFeed p.id q.id hst
  refine (walkAll_alike hsteps h.preMoves hw).bind fun r r' hbefore => ?_
  refine (walkProbe_alike hbefore.1 rapidFeed h).bind fun s s' hprobing => ?_
  refine (walkAll_alike hsteps h.postMoves hprobing.1).bind fun t t' hafter => ?_
  exact ⟨hafter.1, List.rel_append (List.rel_append hbefore.2 hprobing.2) hafter.2⟩

/-- Operations that are walked in the same way have the same path. -/
theorem plan_alike {ps qs : List Probe} (h : List.Forall₂ ProbesAlike ps qs) (start : Position)
    (rapidFeed : Datum) : PathsAlike (plan ps start rapidFeed) (plan qs start rapidFeed) := by
  have hstart : Walk.Alike { position := start } { position := start } :=
    ⟨.refl _, rfl, .refl _⟩
  have hwalk := walkAll_alike (R := ProbesAlike)
    (fun _ _ _ _ hw hpq => walkOperation_alike rapidFeed hw hpq) h hstart
  exact hwalk.map fun _ _ hr => hr.2

/-! ### What a program shows of its operations -/

/-- A step with its numbers as floats. -/
def floatStep : Step → Step
  | .rapid r => .rapid { r with
      axes := match r.axes with
        | .values vs => .values (vs.map fun v => .float (floatOf v))
        | axes => axes }
  | .dwell d => .dwell { d with time := .float (floatOf (.scalar d.time)) }

/-- What a program shows of a probe operation: its numbers as floats, an offset without its sign,
and an approach of length zero forward. -/
def shownProbe (p : Probe) : Probe :=
  { p with
    direction := if isZero (floatOf (.scalar p.distance)) && !p.isForward then .int 1 else p.direction
    distance := .float (floatOf (.scalar p.distance))
    feedRate := .float (floatOf p.feedRate)
    backoff := .float (floatOf (.scalar p.backoff))
    offset := .float (if floatOf p.offset < zero then (floatOf p.offset).abs else floatOf p.offset)
    preMoves := p.preMoves.map floatStep
    postMoves := p.postMoves.map floatStep }

theorem stepsAlike_shown {s : Step} (h : IsPlainStep s) : StepsAlike (rereadStep s) (floatStep s) := by
  cases s with
  | rapid r =>
      obtain ⟨-, vs, hvs, -, -⟩ := h
      refine ⟨⟨_, _, by rw [hvs]; rfl, by rw [hvs], ?_⟩, rfl, rfl⟩
      change List.Forall₂ _ (vs.entries.map fun e => (e.1, rereadNumber e.2))
        (vs.entries.map fun e => (e.1, Datum.float (floatOf e.2)))
      rw [List.forall₂_map_left_iff, List.forall₂_map_right_iff, List.forall₂_same]
      exact fun e _ => ⟨rfl, .float (alikeFloats_settled _)⟩
  | dwell d =>
      obtain ⟨-, htime, hpos, -⟩ := h
      change Scalar.float (settled _) = Scalar.float _
      rw [(isPlain_pos_settled htime.plain hpos).1]

theorem forall₂_stepsAlike_shown {steps : List Step} (h : ∀ s ∈ steps, IsPlainStep s) :
    List.Forall₂ StepsAlike (steps.map rereadStep) (steps.map floatStep) := by
  rw [List.forall₂_map_left_iff, List.forall₂_map_right_iff, List.forall₂_same]
  exact fun s hs => stepsAlike_shown (h s hs)

theorem mul_real (n : Number) (x : Float) :
    n.mul (.real x) = n.toFloat >>= fun y => .ok (.real (y * x)) := by
  cases n <;> rfl

theorem toFloat_of_same {n : Number} {k : Int} (h : n.same (.whole k) = true) (hk : k ≠ 0) :
    n.toFloat = (Number.whole k).toFloat := by
  cases n with
  | whole j =>
      obtain rfl : j = k := by simpa [Number.same] using h
      rfl
  | real x =>
      simp only [Number.same, Bool.and_eq_true, beq_iff_eq] at h
      obtain ⟨j, hj, hfloat⟩ := ofInt?_truncate? h.1
      obtain rfl : j = k := Option.some.inj (hj.symm.trans h.2)
      have hz : isZero x = false := by
        rw [← Bool.not_eq_true]
        intro hz
        rw [truncate?_of_isZero hz] at hj
        exact hk (Option.some.inj hj).symm
      rw [settled, hz, if_neg Bool.false_ne_true] at hfloat
      rw [Number.toFloat, Number.toFloat, hfloat]

/-- A length with the sign of a direction, from a program and as it was given. -/
theorem signed_alike {direction : Scalar} {k : Int} (h : direction.same (.int k) = true) (hk : k ≠ 0)
    (x : Float) :
    Alongside Number.Alike ((Number.whole k).mul (.real (settled x)))
      (direction.toNumber >>= fun n => n.mul (.real x)) := by
  cases hn : direction.number? with
  | none => cases direction <;> simp_all [Scalar.same, Scalar.number?]
  | some n =>
      rw [same_of_number hn rfl] at h
      rw [Scalar.toNumber, hn]
      change Alongside _ _ (n.mul (.real x))
      rw [mul_real, mul_real, toFloat_of_same h hk]
      exact Alongside.eq_bind rfl fun y => .real (AlikeFloats.mul (.inl rfl) (alikeFloats_settled x))

theorem direction_shown {p : Probe} (h : p.direction.isUnit = true) :
    (shownProbe p).direction.same (.int (if readsForward p then 1 else -1)) = true := by
  have hunit := direction_of_isUnit h
  rw [readsForward]
  change Scalar.same (if _ then _ else _) _ = true
  cases hf : p.isForward with
  | true => simpa [hf] using hunit
  | false =>
      cases isZero (floatOf (.scalar p.distance)) with
      | true => rfl
      | false => simpa [hf] using hunit

theorem offset_shown {x : Float} (h : isPlain x = true) :
    AlikeFloats (settled x).abs (if x < zero then x.abs else x) := by
  obtain ⟨negative, m, e, hparts, -, -⟩ := exists_parts_of_isPlain h
  by_cases hx : x < zero
  · have hz : isZero x = false := by simp [isZero, hparts, ((lt_zero_iff hparts).1 hx).2]
    rw [if_pos hx, settled, hz, if_neg Bool.false_ne_true]
    exact .inl rfl
  · have hnonneg : zero ≤ x := by
      rw [lt_zero_iff hparts] at hx
      rw [zero_le_iff hparts]
      cases negative <;> simp_all
    rw [if_neg hx, abs_settled h hnonneg]
    exact alikeFloats_settled x

theorem probesAlike_shown {p : Probe} (h : IsPlainProbe p) (hunit : p.direction.isUnit = true) :
    ProbesAlike (rereadProbe p) (shownProbe p) := by
  have hsign : (if readsForward p then 1 else -1 : Int) ≠ 0 := by split <;> decide
  have hdirection := direction_shown hunit
  exact {
    axis := rfl
    travel := signed_alike hdirection hsign _
    feedRate := congrArg Datum.float (isPlain_pos_settled h.feedRate.plain h.feedRate_pos).1
    offset := .float (offset_shown h.offset.plain)
    retreat := signed_alike hdirection hsign _
    preMoves := forall₂_stepsAlike_shown h.preMoves
    postMoves := forall₂_stepsAlike_shown h.postMoves }

/-! ### The round trip -/

def IsFloatStep : Step → Prop
  | .rapid r => ∃ vs, r.axes = .values vs ∧ ∀ e ∈ vs.entries, ∃ x, e.2 = .float x
  | .dwell d => ∃ x, d.time = .float x

/-- Whether a program shows all that the motions of a probe operation depend on: its numbers are
floats, its offset is not negative, and its approach goes back only over a length. -/
structure IsKept (p : Probe) : Prop where
  distance : ∃ x, p.distance = .float x
  feedRate : ∃ x, p.feedRate = .float x
  backoff : ∃ x, p.backoff = .float x
  offset : ∃ x, p.offset = .float x
  offset_nonneg : ¬ floatOf p.offset < zero
  forward : isZero (floatOf (.scalar p.distance)) = true → p.isForward = true
  preMoves : ∀ s ∈ p.preMoves, IsFloatStep s
  postMoves : ∀ s ∈ p.postMoves, IsFloatStep s

theorem floatStep_eq {s : Step} (h : IsFloatStep s) : floatStep s = s := by
  cases s with
  | rapid r =>
      obtain ⟨vs, hvs, hvalues⟩ := h
      have hmap : vs.map (fun v => Datum.float (floatOf v)) = vs := by
        obtain ⟨entries, nodup⟩ := vs
        rw [ByAxis.map, ByAxis.mk.injEq]
        refine (List.map_congr_left fun e he => ?_).trans (List.map_id entries)
        obtain ⟨a, v⟩ := e
        obtain ⟨x, rfl⟩ : ∃ x, v = .float x := hvalues _ he
        rfl
      obtain ⟨axes, mode, system, description, id⟩ := r
      obtain rfl : axes = .values vs := hvs
      simp only [floatStep, hmap]
  | dwell d =>
      obtain ⟨time, description, id⟩ := d
      obtain ⟨x, rfl⟩ : ∃ x, time = .float x := h
      rfl

theorem shownProbe_eq {p : Probe} (h : IsKept p) : shownProbe p = p := by
  obtain ⟨⟨x, hx⟩, ⟨f, hf⟩, ⟨b, hb⟩, ⟨o, ho⟩, hnonneg, hforward, hpre, hpost⟩ := h
  have hmap {steps : List Step} (h : ∀ s ∈ steps, IsFloatStep s) : steps.map floatStep = steps :=
    (List.map_congr_left fun s hs => floatStep_eq (h s hs)).trans (List.map_id steps)
  have hdirection : (isZero (floatOf (.scalar p.distance)) && !p.isForward) = false := by
    cases hz : isZero (floatOf (.scalar p.distance)) with
    | false => rfl
    | true => rw [hforward hz]; rfl
  rw [shownProbe, hdirection, if_neg Bool.false_ne_true, if_neg hnonneg, hmap hpre, hmap hpost]
  obtain ⟨axis, direction, distance, feedRate, backoff, offset, preMoves, postMoves, id⟩ := p
  obtain rfl : distance = .float x := hx
  obtain rfl : feedRate = .float f := hf
  obtain rfl : backoff = .float b := hb
  obtain rfl : offset = .float o := ho
  rfl

/-- A program keeps the path of its operations, but for the sign of an offset and for an approach of
length zero. -/
theorem plan_read_write {ops : List Probe} {settings : Settings} {count : Nat}
    (hops : ∀ p ∈ ops, IsPlainProbe p) (hunit : ∀ p ∈ ops, p.direction.isUnit = true)
    (hsettings : HasFloats settings) (hdwells : settings.dwells = .int count) (hcount : 2 ≤ count)
    (start : Position) (rapidFeed : Datum) :
    ∃ text, write ops settings = .ok text ∧
      PathsAlike (plan (read text).probes start rapidFeed)
        (plan (ops.map shownProbe) start rapidFeed) ∧
      ((∀ p ∈ ops, IsKept p) →
        PathsAlike (plan (read text).probes start rapidFeed) (plan ops start rapidFeed)) := by
  obtain ⟨text, hwrite, hprobes⟩ := exists_write_probes hops hsettings
    (by rw [hdwells, pauseCount_int]) hcount
  have halike : List.Forall₂ ProbesAlike (ops.map rereadProbe) (ops.map shownProbe) := by
    rw [List.forall₂_map_left_iff, List.forall₂_map_right_iff, List.forall₂_same]
    exact fun p hp => probesAlike_shown (hops p hp) (hunit p hp)
  have hpath := plan_alike halike start rapidFeed
  refine ⟨text, hwrite, hprobes ▸ hpath, fun hkept => ?_⟩
  have hshown : ops.map shownProbe = ops :=
    (List.map_congr_left fun p hp => shownProbe_eq (hkept p hp)).trans (List.map_id ops)
  rw [hshown] at hpath
  rw [hprobes]
  exact hpath

/-- A probe along X and then a move to X five on the work. -/
def measured (direction : Int) (distance offset : Float) : Probe where
  axis := .x
  direction := .int direction
  distance := .float distance
  feedRate := decimal false 100 0
  backoff := .float two
  offset := .float offset
  preMoves := []
  postMoves := [.rapid {
    axes := .values ⟨[(.x, decimal false 5 0)], List.nodup_singleton _⟩
    mode := .absolute
    system := .wcs
    description := .text "Move over (the stock)"
    id := .made }]
  id := .made

theorem isPlainProbe_measured {direction : Int} {distance offset : Float}
    (hdistance : IsPlainNumber (.float distance) ∧ zero ≤ distance)
    (hoffset : IsPlainNumber (.float offset)) :
    IsPlainProbe (measured direction distance offset) where
  distance := hdistance.1
  distance_nonneg := hdistance.2
  feedRate := show IsPlainNumber (decimal false 100 0) by decide +kernel
  feedRate_pos := show zero < floatOf (decimal false 100 0) by decide +kernel
  backoff := show IsPlainNumber (.float two) by decide +kernel
  backoff_nonneg := show zero ≤ floatOf (.float two) by decide +kernel
  offset := hoffset
  preMoves := by simp [measured]
  postMoves := by
    intro s hs
    obtain rfl := List.mem_singleton.1 hs
    refine ⟨⟨_, rfl, by decide, by decide +kernel, by decide⟩, _, rfl, rfl, ?_⟩
    decide +kernel

/-- An approach of two to a surface that gets the coordinate two. -/
theorem plan_read_write_measured :
    ∃ text, write [measured (-1) two two] Settings.default = .ok text ∧
      PathsAlike (plan (read text).probes .origin usualRapidFeed)
        (plan [measured (-1) two two] .origin usualRapidFeed) := by
  have hdwells : Settings.default.dwells = .int (15 : Nat) := rfl
  have hplain : ∀ p ∈ [measured (-1) two two], IsPlainProbe p := by
    simpa using isPlainProbe_measured (by decide +kernel) (by decide +kernel)
  have hunit : ∀ p ∈ [measured (-1) two two], p.direction.isUnit = true := by decide +kernel
  have hkept : IsKept (measured (-1) two two) := {
    distance := ⟨_, rfl⟩
    feedRate := ⟨_, rfl⟩
    backoff := ⟨_, rfl⟩
    offset := ⟨_, rfl⟩
    offset_nonneg := show ¬ two < zero by decide +kernel
    forward := show isZero two = true → _ by decide +kernel
    preMoves := by simp [measured]
    postMoves := by
      intro s hs
      obtain rfl := List.mem_singleton.1 hs
      exact ⟨_, rfl, by simp [decimal]⟩ }
  obtain ⟨text, hwrite, -, hpath⟩ := plan_read_write hplain hunit hasFloats_default hdwells
    (by decide) .origin usualRapidFeed
  exact ⟨text, hwrite, hpath (by simpa using hkept)⟩

def wholePart? : Datum → Option Int
  | .float x => truncate? x
  | _ => none

/-- The whole parts of the ends of a path along X. -/
def stops : Except Fault (List Segment) → List (Option Int)
  | .ok path => path.map fun s => wholePart? s.finish.x
  | .error _ => []

theorem wholePart?_alike {d e : Datum} (h : d.Alike e) : wholePart? d = wholePart? e := by
  cases h with
  | refl d => rfl
  | float h =>
      obtain rfl | ⟨hx, hy⟩ := h
      · rfl
      · rw [wholePart?, wholePart?, truncate?_of_isZero hx, truncate?_of_isZero hy]

theorem stops_alike {m n : Except Fault (List Segment)} (h : PathsAlike m n) : stops m = stops n := by
  cases m with
  | error e => cases n <;> first | rfl | exact h.elim
  | ok path =>
      cases n with
      | error f => exact h.elim
      | ok other =>
          have hpath : List.Forall₂ Segment.Alike path other := h
          rw [stops, stops, ← List.forall₂_eq_eq_eq, List.forall₂_map_left_iff,
            List.forall₂_map_right_iff]
          exact hpath.imp fun _ _ hs => wholePart?_alike (hs.finish .x)

/-- Whether a program changes the path of a probe on its own. -/
def ChangesPath (p : Probe) : Prop :=
  ∃ text, write [p] Settings.default = .ok text ∧
    ¬ PathsAlike (plan (read text).probes .origin usualRapidFeed) (plan [p] .origin usualRapidFeed)

theorem changesPath_of_stops {p : Probe} (h : IsPlainProbe p)
    (hstops : stops (plan [rereadProbe p] .origin usualRapidFeed) ≠
      stops (plan [p] .origin usualRapidFeed)) : ChangesPath p := by
  have hdwells : pauseCount Settings.default.dwells = .ok 15 := rfl
  have hone : ∀ q ∈ [p], IsPlainProbe q := by simpa using h
  obtain ⟨text, hwrite, hprobes⟩ := exists_write_probes hone hasFloats_default hdwells (by decide)
  refine ⟨text, hwrite, fun hpath => hstops ?_⟩
  rw [hprobes] at hpath
  exact stops_alike hpath

/-- The path changes when the surface gets a coordinate below zero, and when a probe touches at once
and goes back. -/
theorem not_plan_read_write :
    ChangesPath (measured 1 two (nearest true 2 1)) ∧ ChangesPath (measured (-1) zero zero) := by
  constructor
  · apply changesPath_of_stops
    · exact isPlainProbe_measured (by decide +kernel) (by decide +kernel)
    · decide +kernel
  · apply changesPath_of_stops
    · exact isPlainProbe_measured (by decide +kernel) (by decide +kernel)
    · decide +kernel

end Path

end TouchProbe
