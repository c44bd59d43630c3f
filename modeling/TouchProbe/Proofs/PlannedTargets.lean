import TouchProbe.Proofs.Motions

/-!
Where the motions of a planned path lead is told by the motions before them.  A walk carries the
work origin of each axis; it is what the latest approach along the axis left there, however long ago
that was, and zero along an axis that was never probed.
-/

namespace TouchProbe.Path

open Number

/-! ### The history of a motion -/

/-- A motion with its segment. -/
abbrev Made := Motion × Segment

/-- The probe of an approach along an axis, and where it touched. -/
def contactAlong? (a : Axis) : Made → Option (Probe × Position)
  | (.approach p, s) => if p.axis = a then some (p, s.finish) else none
  | _ => none

/-- The probe of the latest approach along an axis, and where it touched. -/
def lastContact? (history : List Made) (a : Axis) : Option (Probe × Position) :=
  history.reverse.findSome? (contactAlong? a)

/-- The work origin of an axis: the contact of the latest approach along it gets the offset of its
probe, and there is none if the axis was never probed. -/
def workOrigin (history : List Made) (a : Axis) : Except Fault Datum :=
  match lastContact? history a with
  | some (p, contact) => (contact.get a).minus p.offset
  | none => .ok (.float zero)

/-- Whether a value of a rapid move leads a segment to its end on an axis, if the move names its
mode or machine coordinates. -/
def Reaches (history : List Made) (r : Rapid) (s : Segment) (a : Axis) (v : Datum) : Prop :=
  if r.system = .machine then s.finish.get a = v
  else match r.mode with
  | .relative => (s.start.get a).plus v = .ok (s.finish.get a)
  | .absolute => ∃ o, workOrigin history a = .ok o ∧ v.plus o = .ok (s.finish.get a)
  | .none => True

/-- Whether a segment leads where its motion asks for, given the motions before it. -/
def Follows (history : List Made) : Motion → Segment → Prop
  | .step _ (.rapid r), s => ∃ vs, r.axes = .values vs ∧
    (∀ a v, vs.get? a = some v → Reaches history r s a v) ∧
    ∀ a, vs.get? a = none → s.finish.get a = s.start.get a
  | .step _ (.dwell _), s => s.finish = s.start
  | .approach p, s => ∃ travel, p.signedDistance = .ok travel ∧
    (s.start.get p.axis).plus (.scalar travel.toScalar) = .ok (s.finish.get p.axis) ∧
    ∀ a ≠ p.axis, s.finish.get a = s.start.get a
  | .retreat p, s => ∃ before touch back, history = before ++ [(.approach p, touch)] ∧
    s.start = touch.finish ∧ signedBackoff p = .ok back ∧
    (touch.finish.get p.axis).minus (.scalar back.toScalar) = .ok (s.finish.get p.axis) ∧
    ∀ a ≠ p.axis, s.finish.get a = s.start.get a

theorem lastContact?_append (history : List Made) (m : Made) (a : Axis) :
    lastContact? (history ++ [m]) a = (contactAlong? a m).or (lastContact? history a) := by
  rw [lastContact?, List.reverse_append, List.findSome?_append, List.reverse_singleton,
    List.findSome?_singleton, lastContact?]

/-! ### Destinations -/

theorem mem_of_get? {vs : AxisValues} {a : Axis} {v : Datum} (h : vs.get? a = some v) :
    (a, v) ∈ vs.entries := by
  obtain ⟨before, after, hentries, -⟩ := List.lookup_eq_some_iff.1 h
  rw [hentries]
  exact List.mem_append_right _ List.mem_cons_self

theorem not_mem_of_get? {vs : AxisValues} {a : Axis} (h : vs.get? a = none) :
    a ∉ vs.entries.map (·.1) := by
  intro ha
  obtain ⟨e, he, rfl⟩ := List.mem_map.1 ha
  simpa using List.lookup_eq_none_iff.1 h e he

/-- A move leaves the axes that it does not name. -/
theorem get_destination_of_not_mem {w : Walk} {system : CoordinateSystem} {here finish : Position}
    {es : List (Axis × Datum)} (h : destination w system here es = .ok finish) {a : Axis}
    (ha : a ∉ es.map (·.1)) : finish.get a = here.get a := by
  induction es generalizing here with
  | nil => rw [← Except.ok.inj h]
  | cons e es ih =>
      rw [List.map_cons, List.mem_cons, not_or] at ha
      obtain ⟨c, -, h⟩ := bind_eq_ok.1 h
      rw [ih h ha.2, Position.get_set_of_ne _ _ ha.1]

/-- A move leads to what each of its values says, counted from where it starts. -/
theorem get_destination_of_mem {w : Walk} {system : CoordinateSystem} {here finish : Position}
    {es : List (Axis × Datum)} (hnodup : (es.map (·.1)).Nodup)
    (h : destination w system here es = .ok finish) {a : Axis} {v : Datum} (hv : (a, v) ∈ es) :
    target w system here a v = .ok (finish.get a) := by
  induction es generalizing here with
  | nil => cases hv
  | cons e es ih =>
      rw [List.map_cons, List.nodup_cons] at hnodup
      obtain ⟨c, hc, h⟩ := bind_eq_ok.1 h
      rcases List.mem_cons.1 hv with rfl | hv
      · rw [get_destination_of_not_mem h hnodup.1, Position.get_set_self, hc]
      · have hne : a ≠ e.1 := by
          rintro rfl
          exact hnodup.1 (List.mem_map.2 ⟨_, hv, rfl⟩)
        -- An axis is named once, so its own coordinate was not touched before.
        have htarget := ih hnodup.2 h hv
        rwa [target, Position.get_set_of_ne _ _ hne] at htarget

/-! ### Following a walk -/

/-- Whether a walk carries the work origins that a history leaves. -/
def Remembers (history : List Made) (w : Walk) : Prop :=
  ∀ a, workOrigin history a = .ok (w.origin.get a)

/-- Whether some motions follow a history and one another. -/
def AllFollow (history made : List Made) : Prop :=
  ∀ before m s later, made = before ++ (m, s) :: later → Follows (history ++ before) m s

theorem allFollow_nil (history : List Made) : AllFollow history [] := by
  intro before m s later h
  simp at h

theorem AllFollow.cons {history made : List Made} {m : Motion} {s : Segment} (h : Follows history m s)
    (hrest : AllFollow (history ++ [(m, s)]) made) : AllFollow history ((m, s) :: made) := by
  rintro (_ | ⟨first, before⟩) n t later hmade
  · obtain ⟨hfirst, -⟩ := List.cons.inj hmade
    cases hfirst
    rwa [List.append_nil]
  · obtain ⟨rfl, hmore⟩ := List.cons.inj hmade
    have hfollows := hrest before n t later hmore
    rwa [List.append_assoc] at hfollows

section Remembers

variable {history : List Made} {w : Walk} (h : Remembers history w)

include h

/-- Motions that do not probe change no work origin. -/
theorem Remembers.skip {w' : Walk} {m : Made} (hm : ∀ a, contactAlong? a m = none)
    (horigin : w'.origin = w.origin) : Remembers (history ++ [m]) w' := by
  intro a
  rw [workOrigin, lastContact?_append, hm, horigin, Option.none_or]
  exact h a

/-- A probe sets the work origin of its axis. -/
theorem Remembers.probe {w' : Walk} {p : Probe} {touch : Segment} {origin : Datum}
    (hsets : (touch.finish.get p.axis).minus p.offset = .ok origin)
    (horigin : w'.origin = w.origin.set p.axis origin) :
    Remembers (history ++ [(.approach p, touch)]) w' := by
  intro a
  rw [workOrigin, lastContact?_append, horigin, contactAlong?]
  by_cases ha : p.axis = a
  · subst ha
    rw [if_pos rfl, Position.get_set_self]
    exact hsets
  · rw [if_neg ha, Option.none_or, Position.get_set_of_ne _ _ (Ne.symm ha)]
    exact h a

theorem follows_rapid {operation : Ident} {r : Rapid} {vs : AxisValues} {finish : Position}
    {duration : Float} (axes : r.axes = .values vs)
    (ends : destination { w with isAbsolute := nextMode w.isAbsolute r.mode } r.system w.position
      vs.entries = .ok finish) :
    Follows history (.step operation (.rapid r))
      ⟨.rapid, w.position, finish, duration, operation, some r.id⟩ := by
  refine ⟨vs, axes, fun a v hv => ?_, fun a ha => ?_⟩
  · have htarget := get_destination_of_mem vs.nodup ends (mem_of_get? hv)
    rw [target] at htarget
    rw [Reaches]
    split
    · next hmachine =>
      rw [if_pos hmachine] at htarget
      exact (Except.ok.inj htarget).symm
    · next hmachine =>
      rw [if_neg hmachine] at htarget
      split
      · next hmode =>
        rw [hmode] at htarget
        exact htarget
      · next hmode =>
        rw [hmode] at htarget
        exact ⟨_, h a, htarget⟩
      · trivial
  · exact get_destination_of_not_mem ends (not_mem_of_get? ha)

end Remembers

theorem Traces.allFollow {w w' : Walk} {ms : List Motion} {path : List Segment}
    (h : Traces w ms path w') {history : List Made} (hw : Remembers history w) :
    AllFollow history (ms.zip path) := by
  induction h generalizing history with
  | rest => exact allFollow_nil history
  | rapid axes ends _ ih => exact .cons (follows_rapid hw axes ends) (ih (hw.skip (fun _ => rfl) rfl))
  | dwell _ ih => exact .cons rfl (ih (hw.skip (fun _ => rfl) rfl))
  | @probe w _ p travel back contact origin finish there home _ _ travels touches sets backs ends _ ih =>
      refine .cons ⟨travel, travels, ?_, ?_⟩ (.cons ⟨history, _, back, rfl, rfl, backs, ?_, ?_⟩ (ih ?_))
      · rw [Position.get_set_self]
        exact touches
      · exact fun a ha => Position.get_set_of_ne _ _ ha
      · rw [Position.get_set_self, Position.get_set_self]
        exact ends
      · exact fun a ha => Position.get_set_of_ne _ _ ha
      · have htouch : Remembers
            (history ++ [(.approach p,
              ⟨.probe, w.position, w.position.set p.axis contact, there, p.id, none⟩)])
            { w with origin := w.origin.set p.axis origin } := by
          refine hw.probe ?_ rfl
          rw [Position.get_set_self]
          exact sets
        exact htouch.skip (fun _ => rfl) rfl

/-- Each segment of a planned path leads where its motion asks for, given the motions before it: a
move along each axis that it names to its value, counted from nowhere, from its start or from the
work origin that the latest probe along the axis has set, an approach along its axis by its travel,
and a retreat back from where its probe touched. -/
theorem segments_follow {ops : List Probe} {start : Position} {rapidFeed : Datum} {path : List Segment}
    (h : plan ops start rapidFeed = .ok path) :
    path.map Segment.key = (motions ops).map Motion.key ∧
      ∀ history m s later, (motions ops).zip path = history ++ (m, s) :: later →
        Follows history m s := by
  obtain ⟨w', htraces⟩ := traces_plan h
  refine ⟨htraces.keys, fun history m s later hmade => ?_⟩
  have hall : AllFollow [] ((motions ops).zip path) := htraces.allFollow fun a => by cases a <;> rfl
  exact hall history m s later hmade

/-- The move above the stock counts from where the first probe touched it. -/
theorem segments_follow_descent : ∃ path, plan descent .origin usualRapidFeed = .ok path ∧
    path.map Segment.key = (motions descent).map Motion.key ∧
    ∀ history m s later, (motions descent).zip path = history ++ (m, s) :: later →
      Follows history m s := by
  obtain ⟨path, hplan⟩ := exists_plan_descent
  exact ⟨path, hplan, segments_follow hplan⟩

end TouchProbe.Path
