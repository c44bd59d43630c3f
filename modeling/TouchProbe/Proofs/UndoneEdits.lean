import TouchProbe.Proofs.EditCommutes

/-!
Edits that build a sequence up or put it in another order can be undone.  A move takes a probe
operation out at one place and puts it in at another one, so the move the other way round finds it
there and puts it back, whatever the two places are and from which end they are counted.  What is
added stands last and is found by its id, unless something else has that id.
-/

namespace TouchProbe.Edit

open Naming

/-! ### Moves -/

/-- Whether an index means a place in a list of some length: one below zero counts from the end. -/
def HasPlace (count : Nat) (index : Int) : Prop := -(count : Int) ≤ index ∧ index < count

theorem place_of_hasPlace {count : Nat} {index : Int} (h : HasPlace count index) :
    place count index = .ok (index % count).toNat := if_pos h

theorem place_eq_ok {count k : Nat} {index : Int} (h : place count index = .ok k) :
    k = (index % count).toNat := by
  rw [place] at h
  split at h
  · exact (Except.ok.inj h).symm
  · cases h

theorem indexOf_int (count : Nat) (index : Int) :
    indexOf count (.int index) =
      if isIndex count (.whole index) then .ok (.whole index)
      else .error (.probeIndex (Datum.int index).plain count) := rfl

theorem isIndex_whole_iff {count : Nat} {index : Int} :
    isIndex count (.whole index) = true ↔ HasPlace count index := by
  simp [isIndex, HasPlace]

theorem moveProbeBy_of_hasPlace {source destination : Int} {ps : List Probe}
    (hsource : HasPlace ps.length source) (hdestination : HasPlace ps.length destination) :
    moveProbeBy (.int source) (.int destination) ps = moveProbe source destination ps := by
  rw [moveProbeBy, indexOf_int, indexOf_int, if_pos (isIndex_whole_iff.2 hsource),
    if_pos (isIndex_whole_iff.2 hdestination)]
  rfl

/-- An index without a place is told. -/
theorem moveProbeBy_of_not_hasPlace {source destination : Int} {ps : List Probe}
    (h : ¬ (HasPlace ps.length source ∧ HasPlace ps.length destination)) :
    ∃ f, moveProbeBy (.int source) (.int destination) ps = .error f ∧ f.family = .badIndex := by
  rw [moveProbeBy, indexOf_int, indexOf_int]
  by_cases hsource : HasPlace ps.length source
  · have hdestination := fun hdestination => h ⟨hsource, hdestination⟩
    rw [if_pos (isIndex_whole_iff.2 hsource), if_neg (mt isIndex_whole_iff.1 hdestination)]
    exact ⟨_, rfl, rfl⟩
  · rw [if_neg (mt isIndex_whole_iff.1 hsource)]
    exact ⟨_, rfl, rfl⟩

/-- Whether a probe operation was moved from the place of one index to that of another one. -/
structure Moves (source destination : Int) (ps qs : List Probe) : Prop where
  perm : qs.Perm ps
  stands : ∃ p, ps[(source % ps.length).toNat]? = some p ∧
    qs[(destination % ps.length).toNat]? = some p
  others : qs.eraseIdx (destination % ps.length).toNat = ps.eraseIdx (source % ps.length).toNat

theorem exists_of_hasPlace {source destination : Int} {ps : List Probe}
    (hsource : HasPlace ps.length source) (hdestination : HasPlace ps.length destination) :
    ∃ qs, moveProbe source destination ps = .ok qs := by
  have hi := place_of_hasPlace hsource
  have hj := place_of_hasPlace hdestination
  exact ⟨_, moveProbe_eq_ok.2 ⟨_, _, _, hi, hj, List.getElem?_eq_getElem (lt_of_place hi), rfl⟩⟩

theorem perm_of_moveProbe {source destination : Int} {ps qs : List Probe}
    (h : moveProbe source destination ps = .ok qs) : qs.Perm ps := by
  obtain ⟨i, j, p, hi, hj, hp, rfl⟩ := moveProbe_eq_ok.1 h
  obtain ⟨hlt, rfl⟩ := List.getElem?_eq_some_iff.1 hp
  exact (List.perm_insertIdx _ _ (le_length_eraseIdx hlt (lt_of_place hj))).trans
    (List.getElem_cons_eraseIdx_perm hlt)

/-- What is moved back stands where it stood. -/
theorem moveProbe_back {source destination : Int} {ps qs : List Probe}
    (h : moveProbe source destination ps = .ok qs) : moveProbe destination source qs = .ok ps := by
  have hlength := (perm_of_moveProbe h).length_eq
  obtain ⟨i, j, p, hi, hj, hp, rfl⟩ := moveProbe_eq_ok.1 h
  have hle := le_length_eraseIdx (lt_of_place hi) (lt_of_place hj)
  rw [moveProbe_eq_ok, hlength]
  refine ⟨j, i, p, hj, hi, ?_, ?_⟩
  · rw [List.getElem?_insertIdx_self, if_pos hle]
  · obtain ⟨hlt, rfl⟩ := List.getElem?_eq_some_iff.1 hp
    rw [List.eraseIdx_insertIdx_self, List.insertIdx_eraseIdx_getElem]

theorem moves_of_moveProbe {source destination : Int} {ps qs : List Probe}
    (h : moveProbe source destination ps = .ok qs) : Moves source destination ps qs := by
  have hperm := perm_of_moveProbe h
  obtain ⟨i, j, p, hi, hj, hp, rfl⟩ := moveProbe_eq_ok.1 h
  have hle := le_length_eraseIdx (lt_of_place hi) (lt_of_place hj)
  obtain rfl := place_eq_ok hi
  obtain rfl := place_eq_ok hj
  refine ⟨hperm, ⟨p, hp, ?_⟩, List.eraseIdx_insertIdx_self p⟩
  rw [List.getElem?_insertIdx_self, if_pos hle]

/-! ### An edit and one that leads back -/

/-- Whether an edit is made, and another one after it leads back. -/
def Command.IsUndoneBy (c undo : Command) (endings : Nat → String) (ps : List Probe) : Prop :=
  (∃ qs, c.apply ps = .ok qs) ∧ undo.apply (c.next endings ps) = .ok ps

theorem Command.next_of_ok {c : Command} {ps qs : List Probe} (h : c.apply ps = .ok qs)
    (endings : Nat → String) : c.next endings ps = nameProbes endings 0 qs := by
  rw [next, h]

theorem apply_moveProbe {source destination : Int} {ps : List Probe}
    (hsource : HasPlace ps.length source) (hdestination : HasPlace ps.length destination) :
    (Command.moveProbe (.int source) (.int destination)).apply ps = moveProbe source destination ps :=
  moveProbeBy_of_hasPlace hsource hdestination

/-- What is moved has its names already. -/
theorem next_moveProbe {source destination : Int} {ps qs : List Probe} (hps : ∀ p ∈ ps, p.IsNamed)
    (hsource : HasPlace ps.length source) (hdestination : HasPlace ps.length destination)
    (h : moveProbe source destination ps = .ok qs) (endings : Nat → String) :
    (Command.moveProbe (.int source) (.int destination)).next endings ps = qs := by
  have hqs : ∀ q ∈ qs, q.IsNamed := fun q hq => hps q ((perm_of_moveProbe h).subset hq)
  rw [Command.next_of_ok ((apply_moveProbe hsource hdestination).trans h)]
  exact nameProbes_of_isNamed hqs endings

theorem isUndoneBy_moveProbe {source destination : Int} {ps qs : List Probe}
    (hps : ∀ p ∈ ps, p.IsNamed) (hsource : HasPlace ps.length source)
    (hdestination : HasPlace ps.length destination)
    (h : moveProbe source destination ps = .ok qs) (endings : Nat → String) :
    (Command.moveProbe (.int source) (.int destination)).IsUndoneBy
      (.moveProbe (.int destination) (.int source)) endings ps := by
  have hlength := (perm_of_moveProbe h).length_eq
  refine ⟨⟨qs, (apply_moveProbe hsource hdestination).trans h⟩, ?_⟩
  rw [next_moveProbe hps hsource hdestination h,
    apply_moveProbe (by rwa [hlength]) (by rwa [hlength])]
  exact moveProbe_back h

/-- The probe operation that is added is the only one with its id, and is the one that is
removed. -/
theorem removeProbe_append {ps : List Probe} {p : Probe} {id : Datum} (hp : p.id.isNamed id = true)
    (hps : ∀ q ∈ ps, q.id.isNamed id = false) : removeProbe id (ps ++ [p]) = .ok ps := by
  have hothers : ∀ q ∈ ps, ¬ q.id.isNamed id = true := fun q hq => Bool.eq_false_iff.1 (hps q hq)
  rw [removeProbe, if_pos (by simp [hp]), List.eraseP_append_right _ hothers]
  simp [hp]

theorem isUndoneBy_addProbe {ps : List Probe} (hps : ∀ p ∈ ps, p.IsNamed) {template given : ProbeFields}
    {qs : List Probe} (h : (Command.addProbe template given).apply ps = .ok qs)
    (endings : Nat → String) :
    ∃ p, (Command.addProbe template given).next endings ps = ps ++ [p] ∧
      ∀ id, p.id.isNamed id = true → (∀ q ∈ ps, q.id.isNamed id = false) →
        (Command.addProbe template given).IsUndoneBy (.removeProbe id) endings ps := by
  obtain ⟨p, hnext⟩ := touches_addProbe hps endings h
  rw [← Command.next_of_ok h] at hnext
  refine ⟨p, hnext, fun id hp hothers => ⟨⟨qs, h⟩, ?_⟩⟩
  rw [hnext]
  exact removeProbe_append hp hothers

/-! ### Moves of a probe operation -/

theorem changeFirst_of_isFirst {α : Type} {test : α → Bool} {before : List α} {a : α}
    (h : IsFirst test before a) (missing : Fault) (change : α → Except Fault α) (after : List α) :
    changeFirst test missing change (before ++ a :: after) =
      (change a).map fun b => before ++ b :: after := by
  induction before with
  | nil => exact if_pos h.found
  | cons c before ih =>
      obtain ⟨hc, hskipped⟩ := List.forall_mem_cons.1 h.skipped
      rw [List.cons_append, changeFirst, if_neg (Bool.eq_false_iff.1 hc), ih ⟨hskipped, h.found⟩]
      cases change a <;> rfl

theorem find?_of_isFirst {α : Type} {test : α → Bool} {before : List α} {a : α}
    (h : IsFirst test before a) (after : List α) : (before ++ a :: after).find? test = some a :=
  List.find?_eq_some_iff_append.2 ⟨h.found, before, after, rfl, fun b hb => by simp [h.skipped b hb]⟩

theorem Side.ofDatum_name (side : Side) : Side.ofDatum (.text side.name) = .ok side := by
  cases side <;> exact chooseNamed_name (by decide +kernel)

theorem moves_withMoves (side : Side) (p : Probe) (ms : List Step) :
    side.moves (side.withMoves p ms) = ms := by
  cases side <;> rfl

theorem withMoves_withMoves (side : Side) (p : Probe) (ms ns : List Step) :
    side.withMoves (side.withMoves p ms) ns = side.withMoves p ns := by
  cases side <;> rfl

theorem withMoves_moves (side : Side) (p : Probe) : side.withMoves p (side.moves p) = p := by
  cases side <;> rfl

/-- The step that is added on a side is the only one with its id, and all others stay. -/
theorem filter_append_singleton {ms : List Step} {s : Step} {stepId : Datum}
    (hs : s.id.isNamed stepId = true) (hms : ∀ m ∈ ms, m.id.isNamed stepId = false) :
    (ms ++ [s]).filter (fun m => !m.id.isNamed stepId) = ms := by
  rw [List.filter_append, List.filter_eq_self.2 fun m hm => by simp [hms m hm]]
  simp [hs]

theorem removeMovement_added {before after : List Probe} {p : Probe} {id stepId : Datum}
    (hfirst : IsFirst (·.id.isNamed id) before p) {side : Side} {s : Step}
    (hs : s.id.isNamed stepId = true) (hms : ∀ m ∈ side.moves p, m.id.isNamed stepId = false) :
    removeMovement id stepId (.text side.name)
        (before ++ side.withMoves p (side.moves p ++ [s]) :: after) =
      .ok (before ++ p :: after) := by
  have hfound : IsFirst (fun q : Probe => q.id.isNamed id) before
      (side.withMoves p (side.moves p ++ [s])) :=
    ⟨hfirst.skipped, by rw [id_withMoves]; exact hfirst.found⟩
  rw [removeMovement, Side.ofDatum_name]
  change changeProbe _ _ _ = _
  rw [changeProbe, changeFirst_of_isFirst hfound, moves_withMoves, if_pos (by simp [hs]),
    filter_append_singleton hs hms, withMoves_withMoves, withMoves_moves]
  rfl

theorem exists_of_addMovement {ps : List Probe} {id : Datum} {p : Probe}
    (hp : ps.find? (·.id.isNamed id) = some p) (side : Side) (step : Option Step) :
    ∃ qs, (Command.addMovement id (.text side.name) step).apply ps = .ok qs := by
  obtain ⟨hfound, before, after, rfl, hskipped⟩ := List.find?_eq_some_iff_append.1 hp
  have hfirst : IsFirst (·.id.isNamed id) before p := ⟨fun q hq => by simpa using hskipped q hq, hfound⟩
  refine ⟨before ++ side.withMoves p (side.moves p ++ [step.getD side.usualStep]) :: after, ?_⟩
  rw [Command.apply, addMovement, Side.ofDatum_name]
  exact changeFirst_of_isFirst hfirst _ _ after

theorem isUndoneBy_addMovement {ps : List Probe} (hps : ∀ p ∈ ps, p.IsNamed) {id : Datum} {p : Probe}
    (hp : ps.find? (·.id.isNamed id) = some p) (side : Side) (step : Option Step)
    (endings : Nat → String) :
    ∃ before after s, NamesStep (step.getD side.usualStep) s ∧ ps = before ++ p :: after ∧
      (Command.addMovement id (.text side.name) step).next endings ps =
        before ++ side.withMoves p (side.moves p ++ [s]) :: after ∧
      ∀ stepId, s.id.isNamed stepId = true → (∀ m ∈ side.moves p, m.id.isNamed stepId = false) →
        (Command.addMovement id (.text side.name) step).IsUndoneBy
          (.removeMovement id stepId (.text side.name)) endings ps := by
  obtain ⟨qs, h⟩ := exists_of_addMovement hp side step
  obtain ⟨side', hside, before, p', after, q, hfirst, rfl, ⟨s, hs, rfl⟩, hnext⟩ :=
    touches_addMovement hps endings h
  obtain rfl := Except.ok.inj ((Side.ofDatum_name side).symm.trans hside)
  obtain rfl := Option.some.inj ((find?_of_isFirst hfirst after).symm.trans hp)
  rw [← Command.next_of_ok h] at hnext
  refine ⟨before, after, s, hs, rfl, hnext, fun stepId hstep hms => ⟨⟨qs, h⟩, ?_⟩⟩
  rw [hnext]
  exact removeMovement_added hfirst hstep hms

/-- What leads back from the edits of a sequence. -/
structure IsUndoable (endings : Nat → String) (ps : List Probe) : Prop where
  /-- A move is undone by the move between the same places the other way round. -/
  move (source destination : Int) (hsource : HasPlace ps.length source)
    (hdestination : HasPlace ps.length destination) :
    Moves source destination ps
        ((Command.moveProbe (.int source) (.int destination)).next endings ps) ∧
      (Command.moveProbe (.int source) (.int destination)).IsUndoneBy
        (.moveProbe (.int destination) (.int source)) endings ps
  /-- Nothing is moved from or to an index without a place. -/
  beyond (source destination : Int)
    (h : ¬ (HasPlace ps.length source ∧ HasPlace ps.length destination)) :
    ∃ f, (Command.moveProbe (.int source) (.int destination)).apply ps = .error f ∧
      f.family = .badIndex
  /-- A probe operation that is added is removed by its id, unless another one has it. -/
  add (template given : ProbeFields) {qs : List Probe}
    (h : (Command.addProbe template given).apply ps = .ok qs) :
    ∃ p, (Command.addProbe template given).next endings ps = ps ++ [p] ∧
      ∀ id, p.id.isNamed id = true → (∀ q ∈ ps, q.id.isNamed id = false) →
        (Command.addProbe template given).IsUndoneBy (.removeProbe id) endings ps
  /-- A step that is added on a side of a probe operation is removed by its id, unless another step
  there has it. -/
  addMovement {id : Datum} {p : Probe} (hp : ps.find? (·.id.isNamed id) = some p) (side : Side)
    (step : Option Step) :
    ∃ before after s, NamesStep (step.getD side.usualStep) s ∧ ps = before ++ p :: after ∧
      (Command.addMovement id (.text side.name) step).next endings ps =
        before ++ side.withMoves p (side.moves p ++ [s]) :: after ∧
      ∀ stepId, s.id.isNamed stepId = true → (∀ m ∈ side.moves p, m.id.isNamed stepId = false) →
        (Command.addMovement id (.text side.name) step).IsUndoneBy
          (.removeMovement id stepId (.text side.name)) endings ps

/-- Every edit that moves a probe operation or adds something can be taken back.  A move puts one
probe operation in another place, leaves the others in their order, and is undone by the move between
the same places the other way round; from or to an index without a place nothing is moved.  A probe
operation or a step that was added is removed by its id, unless there was one with that id before. -/
theorem isUndoable_of_isNamed {ps : List Probe} (hps : ∀ p ∈ ps, p.IsNamed)
    (endings : Nat → String) : IsUndoable endings ps where
  move source destination hsource hdestination := by
    obtain ⟨qs, hqs⟩ := exists_of_hasPlace hsource hdestination
    refine ⟨?_, isUndoneBy_moveProbe hps hsource hdestination hqs endings⟩
    rw [next_moveProbe hps hsource hdestination hqs]
    exact moves_of_moveProbe hqs
  beyond _ _ h := moveProbeBy_of_not_hasPlace h
  add _ _ _ h := isUndoneBy_addProbe hps h endings
  addMovement hp side step := isUndoneBy_addMovement hps hp side step endings

theorem isNamed_twinsAndOther : ∀ p ∈ twinsAndOther, p.IsNamed := by
  simp only [twinsAndOther, List.forall_mem_cons]
  exact ⟨isNamed_twin .z, isNamed_twin .x, ⟨Ident.noConfusion, (isNamed_twin .y).preMoves,
    (isNamed_twin .y).postMoves⟩, by simp⟩

def addedMove : Step := nameStep "c" Side.pre.usualStep

/-- The last of three probe operations is moved to the second place, counted from either end, and
back.  A fourth one, and a step that joins another one before the probe of the third, come and go. -/
theorem isUndoable_of_isNamed_twins :
    (∀ p ∈ twinsAndOther, p.IsNamed) ∧
      Moves (-1) (-2) twinsAndOther [twin .z, { twin .y with id := .given (.text "q") }, twin .x] ∧
      (Command.moveProbe (.int 2) (.int (-2))).IsUndoneBy (.moveProbe (.int (-2)) (.int 2))
        (fun _ => "b") twinsAndOther ∧
      (∃ f, (Command.moveProbe (.int 3) (.int 0)).apply twinsAndOther = .error f ∧
        f.family = .badIndex) ∧
      (Command.addProbe {} {}).IsUndoneBy (.removeProbe (.text "probe-b")) (fun _ => "b")
        twinsAndOther ∧
      (Command.addMovement (.text "q") (.text "pre") (some addedMove)).IsUndoneBy
        (.removeMovement (.text "q") (.text "step-c") (.text "pre")) (fun _ => "b") twinsAndOther := by
  have hundoable := isUndoable_of_isNamed isNamed_twinsAndOther fun _ => "b"
  have hadded : ((Command.addProbe {} {}).apply twinsAndOther).isOk = true := by decide +kernel
  obtain ⟨qs, hqs⟩ := isOk_iff.1 hadded
  obtain ⟨p, hp, hremoved⟩ := hundoable.add {} {} hqs
  have hname : p.id.isNamed (.text "probe-b") = true := by
    have hlast : ((Command.addProbe {} {}).next (fun _ => "b") twinsAndOther).getLast?.all
        (·.id.isNamed (.text "probe-b")) = true := by decide +kernel
    rw [hp, List.getLast?_concat] at hlast
    exact hlast
  have hthird : IsFirst (·.id.isNamed (.text "q")) [twin .z, twin .x]
      { twin .y with id := .given (.text "q") } := ⟨by decide +kernel, by decide +kernel⟩
  obtain ⟨before, after, s, ⟨ending, rfl⟩, -, -, hback⟩ :=
    hundoable.addMovement (find?_of_isFirst hthird []) .pre (some addedMove)
  refine ⟨isNamed_twinsAndOther, (hundoable.move (-1) (-2) ?_ ?_).1, (hundoable.move 2 (-2) ?_ ?_).2,
    hundoable.beyond 3 0 (by simp [HasPlace, twinsAndOther]), hremoved _ hname ?_, hback _ ?_ ?_⟩
  · constructor <;> decide
  · constructor <;> decide
  · constructor <;> decide
  · constructor <;> decide
  · decide +kernel
  · rw [Option.getD_some, addedMove, nameStep_of_isNamed (isNamed_nameStep _ _)]
    decide +kernel
  · decide +kernel

end TouchProbe.Edit
