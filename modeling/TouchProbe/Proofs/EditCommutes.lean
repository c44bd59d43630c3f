import TouchProbe.Proofs.EditFrames

/-!
Edits of different probes commute.  Each of them finds its probe by an id, looks at that probe
alone, and puts there what it makes of it, which has the same id or is nothing.  So an edit finds
its probe, and makes the same of it, whether or not another one was edited before, though its place
may have shifted.
-/

namespace TouchProbe.Edit

/-! ### Replacing the first member that passes a test -/

section Replace

variable {α : Type}

/-- The list with the first member that passes a test replaced by what is made of it, if there is
such a member and something can be made of it. -/
def replaceFirst (test : α → Bool) (make : α → Option (List α)) : List α → Option (List α)
  | [] => none
  | a :: rest =>
    if test a then (make a).map (· ++ rest) else (replaceFirst test make rest).map (a :: ·)

variable {test : α → Bool} {make : α → Option (List α)}

theorem replaceFirst_of_found {a : α} (h : test a = true) (rest : List α) :
    replaceFirst test make (a :: rest) = (make a).map (· ++ rest) := if_pos h

theorem replaceFirst_of_skipped {a : α} (h : test a = false) (rest : List α) :
    replaceFirst test make (a :: rest) = (replaceFirst test make rest).map (a :: ·) :=
  if_neg (Bool.eq_false_iff.1 h)

theorem replaceFirst_append {as : List α} (h : ∀ a ∈ as, test a = false) (bs : List α) :
    replaceFirst test make (as ++ bs) = (replaceFirst test make bs).map (as ++ ·) := by
  induction as with
  | nil => simp
  | cons a as ih =>
      obtain ⟨ha, has⟩ := List.forall_mem_cons.1 h
      rw [List.cons_append, replaceFirst_of_skipped ha, ih has, Option.map_map]
      rfl

theorem replaceFirst_none (as : List α) : replaceFirst test (fun _ => none) as = none := by
  induction as with
  | nil => rfl
  | cons a as ih =>
      rw [replaceFirst, ih]
      split <;> rfl

/-- Whether what is made of the members that pass a test fails another test. -/
def MakesOthers (test other : α → Bool) (make : α → Option (List α)) : Prop :=
  ∀ a, test a = true → ∀ made ∈ make a, ∀ b ∈ made, other b = false

variable {other : α → Bool} {make' : α → Option (List α)}

/-- The member that passes the one test is the first one of the list: the other replacement goes on
behind it, in either order. -/
theorem replaceFirst_comm_of_found {a : α} (ha : test a = true) (ha' : other a = false)
    (hmake : MakesOthers test other make) (rest : List α) :
    (replaceFirst test make (a :: rest)).bind (replaceFirst other make') =
      (replaceFirst other make' (a :: rest)).bind (replaceFirst test make) := by
  rw [replaceFirst_of_found ha, replaceFirst_of_skipped ha', Option.bind_map, Option.bind_map]
  cases hmade : make a with
  | none =>
      cases replaceFirst other make' rest with
      | none => rfl
      | some rest' => simp [replaceFirst_of_found ha, hmade]
  | some made =>
      have hskip : replaceFirst other make' (made ++ rest) =
          (replaceFirst other make' rest).map (made ++ ·) :=
        replaceFirst_append (hmake a ha made hmade) rest
      cases hrest : replaceFirst other make' rest with
      | none => simp [hskip, hrest]
      | some rest' => simp [hskip, hrest, replaceFirst_of_found ha, hmade]

/-- A member that passes neither test is passed over, in either order. -/
theorem replaceFirst_bind_of_skipped {a : α} (ha : test a = false) (ha' : other a = false)
    (rest : List α) : (replaceFirst test make (a :: rest)).bind (replaceFirst other make') =
      ((replaceFirst test make rest).bind (replaceFirst other make')).map (a :: ·) := by
  rw [replaceFirst_of_skipped ha]
  cases replaceFirst test make rest with
  | none => rfl
  | some rest' => exact replaceFirst_of_skipped ha' rest'

/-- Replacements commute if no member passes both tests and what is made for the one fails the
other. -/
theorem replaceFirst_comm (hapart : ∀ a, test a = true → other a = false)
    (hmake : MakesOthers test other make) (hmake' : MakesOthers other test make') (as : List α) :
    (replaceFirst test make as).bind (replaceFirst other make') =
      (replaceFirst other make' as).bind (replaceFirst test make) := by
  induction as with
  | nil => rfl
  | cons a as ih =>
      cases ha : test a with
      | true => exact replaceFirst_comm_of_found ha (hapart a ha) hmake as
      | false =>
          cases ha' : other a with
          | true => exact (replaceFirst_comm_of_found ha' ha hmake' as).symm
          | false =>
              rw [replaceFirst_bind_of_skipped ha ha', replaceFirst_bind_of_skipped ha' ha, ih]

end Replace

/-! ### Edits of one probe -/

/-- Whether an edit is one of the probe with an id, which it keeps or removes. -/
def Command.Addresses (i : Datum) : Command → Prop
  | updateProbe id changes => id = i ∧ changes.id = none
  | removeProbe id => id = i
  | addMovement id _ step => id = i ∧ step.isSome = true
  | updateMovement id _ _ _ _ => id = i
  | removeMovement id _ _ => id = i
  | addProbe _ _ | moveProbe _ _ => False

/-- Whether two ids are different: no value equals both. -/
def AreDifferent (i j : Datum) : Prop := ∀ d : Datum, d.same i = true → d.same j = false

theorem same_text_iff {d : Datum} {s : String} : d.same (.text s) = true ↔ d = .text s := by
  cases d with
  | scalar a =>
      rw [Datum.same]
      cases a <;> simp [Scalar.same, Scalar.number?]
  | _ => simp [Datum.same]

/-- Texts are different ids just when they are different. -/
theorem areDifferent_text_iff {s t : String} : AreDifferent (.text s) (.text t) ↔ s ≠ t := by
  constructor
  · rintro h rfl
    have hsame := same_text_iff.2 (rfl : Datum.text s = .text s)
    rw [h _ hsame] at hsame
    cases hsame
  · intro hne d hd
    obtain rfl := same_text_iff.1 hd
    rw [Bool.eq_false_iff, Ne, same_text_iff]
    rintro h
    cases h
    exact hne rfl

/-- Whether an edit replaces the probe with an id by what is made of it, which has the same id. -/
structure Replaces (c : Command) (i : Datum) (make : Probe → Option (List Probe)) : Prop where
  keeps : ∀ p, ∀ made ∈ make p, ∀ q ∈ made, q.id = p.id
  apply : ∀ ps, (c.apply ps).toOption = replaceFirst (·.id.isNamed i) make ps

theorem toOption_eq_some {α : Type} {x : Except Fault α} {a : α} : x.toOption = some a ↔ x = .ok a := by
  cases x <;> simp [Except.toOption]

theorem toOption_changeFirst {α : Type} (test : α → Bool) (missing : Fault) (change : α → Except Fault α)
    (as : List α) : (changeFirst test missing change as).toOption =
      replaceFirst test (fun a => (change a).toOption.map ([·])) as := by
  induction as with
  | nil => rfl
  | cons a as ih =>
      rw [changeFirst, replaceFirst, ← ih]
      split
      · cases change a <;> rfl
      · cases changeFirst test missing change as <;> rfl

theorem toOption_removeProbe (i : Datum) (ps : List Probe) :
    (removeProbe i ps).toOption = replaceFirst (·.id.isNamed i) (fun _ => some []) ps := by
  induction ps with
  | nil => rfl
  | cons p ps ih =>
      cases hp : p.id.isNamed i with
      | true => simp [removeProbe, replaceFirst, hp, Except.toOption]
      | false =>
          have hskip : replaceFirst (·.id.isNamed i) (fun _ => some []) (p :: ps) =
              (replaceFirst (·.id.isNamed i) (fun _ => some []) ps).map (p :: ·) :=
            if_neg (by simp [hp])
          rw [hskip, ← ih, removeProbe, removeProbe, List.any_cons, hp,
            List.eraseP_cons_of_neg (by simp [hp]), Bool.false_or]
          split <;> rfl

theorem replaces_changeProbe {c : Command} {i : Datum} {change : Probe → Except Fault Probe}
    (hid : ∀ p q, change p = .ok q → q.id = p.id) (h : ∀ ps, c.apply ps = changeProbe i change ps) :
    Replaces c i fun p => (change p).toOption.map ([·]) where
  keeps p made hmade q hq := by
    obtain ⟨r, hr, rfl⟩ := Option.map_eq_some_iff.1 hmade
    obtain rfl := List.mem_singleton.1 hq
    exact hid p q (toOption_eq_some.1 hr)
  apply ps := by
    rw [h ps]
    exact toOption_changeFirst _ _ change ps

/-- A change on a side; a side that is none fails for every probe. -/
theorem exists_replaces_of_side {c : Command} {i which : Datum}
    (change : Side → Probe → Except Fault Probe)
    (hid : ∀ side p q, change side p = .ok q → q.id = p.id)
    (h : ∀ ps, c.apply ps = Side.ofDatum which >>= fun side => changeProbe i (change side) ps) :
    ∃ make, Replaces c i make := by
  cases hside : Side.ofDatum which with
  | ok side =>
      refine ⟨_, replaces_changeProbe (hid side) fun ps => ?_⟩
      rw [h, hside]
      rfl
  | error f =>
      refine ⟨fun _ => none, by simp, fun ps => ?_⟩
      rw [h, hside, replaceFirst_none]
      rfl

theorem id_withMoves (side : Side) (p : Probe) (ms : List Step) : (side.withMoves p ms).id = p.id := by
  cases side <;> rfl

/-- Each edit of the probe with an id replaces it. -/
theorem exists_replaces {c : Command} {i : Datum} (h : c.Addresses i) : ∃ make, Replaces c i make := by
  cases c with
  | addProbe template given => exact h.elim
  | moveProbe source destination => exact h.elim
  | updateProbe id changes =>
      obtain ⟨rfl, hnone⟩ := h
      exact ⟨_, replaces_changeProbe (fun p q hq => (updates_of_build hq).id hnone) fun _ => rfl⟩
  | removeProbe id =>
      obtain rfl := h
      refine ⟨fun _ => some [], fun p made hmade q hq => ?_, toOption_removeProbe id⟩
      cases hmade
      cases hq
  | addMovement id which step =>
      obtain ⟨rfl, -⟩ := h
      refine exists_replaces_of_side (fun side p =>
        .ok (side.withMoves p (side.moves p ++ [step.getD side.usualStep]))) ?_ fun _ => rfl
      intro side p q hq
      rw [← Except.ok.inj hq, id_withMoves]
  | updateMovement id stepId which kind changes =>
      obtain rfl := h
      refine exists_replaces_of_side _ ?_ fun _ => rfl
      intro side p q hq
      obtain ⟨moves, -, hq⟩ := bind_eq_ok.1 hq
      rw [← Except.ok.inj hq, id_withMoves]
  | removeMovement id stepId which =>
      obtain rfl := h
      refine exists_replaces_of_side _ ?_ fun _ => rfl
      intro side p q hq
      split at hq
      · rw [← Except.ok.inj hq, id_withMoves]
      · cases hq

/-! ### Two edits -/

theorem isNamed_apart {i j : Datum} (h : AreDifferent i j) {id : Ident} (hid : id.isNamed i = true) :
    id.isNamed j = false := by
  cases id with
  | given d => exact h d hid
  | made => cases hid

/-- What an edit makes of a probe is not found by another id. -/
theorem Replaces.makesOthers {c : Command} {i j : Datum} {make : Probe → Option (List Probe)}
    (h : Replaces c i make) (hij : AreDifferent i j) :
    MakesOthers (·.id.isNamed i) (·.id.isNamed j) make := by
  intro p hp made hmade q hq
  change q.id.isNamed j = false
  rw [h.keeps p made hmade q hq]
  exact isNamed_apart hij hp

theorem AreDifferent.symm {i j : Datum} (h : AreDifferent i j) : AreDifferent j i := by
  intro d hd
  rw [Bool.eq_false_iff]
  intro hi
  rw [h d hi] at hd
  cases hd

theorem toOption_bind {α β : Type} (x : Except Fault α) (next : α → Except Fault β) :
    (x >>= next).toOption = x.toOption.bind fun a => (next a).toOption := by
  cases x <;> rfl

theorem toOption_apply_comm {i j : Datum} (hij : AreDifferent i j) {c d : Command}
    (hc : c.Addresses i) (hd : d.Addresses j) (ps : List Probe) :
    (c.apply ps >>= d.apply).toOption = (d.apply ps >>= c.apply).toOption := by
  obtain ⟨make, hmake⟩ := exists_replaces hc
  obtain ⟨make', hmake'⟩ := exists_replaces hd
  rw [toOption_bind, toOption_bind]
  simp only [hmake.apply, hmake'.apply]
  exact replaceFirst_comm (fun p hp => isNamed_apart hij hp) (hmake.makesOthers hij)
    (hmake'.makesOthers hij.symm) ps

/-- Two edits of probes with different ids can be made in one order just when they can be made in
the other, and then both orders lead to the same sequence. -/
theorem edits_commute {i j : Datum} (hij : AreDifferent i j) {c d : Command} (hc : c.Addresses i)
    (hd : d.Addresses j) (ps : List Probe) :
    ((∃ f, (c.apply ps >>= d.apply) = .error f) ↔ ∃ f, (d.apply ps >>= c.apply) = .error f) ∧
      ∀ qs qs', (c.apply ps >>= d.apply) = .ok qs → (d.apply ps >>= c.apply) = .ok qs' → qs = qs' := by
  have hcomm := toOption_apply_comm hij hc hd ps
  generalize (c.apply ps >>= d.apply) = r at hcomm
  generalize (d.apply ps >>= c.apply) = r' at hcomm
  cases r with
  | ok qs =>
      cases r' with
      | ok qs' => simpa [Except.toOption] using hcomm
      | error f => cases hcomm
  | error f =>
      cases r' with
      | ok qs' => cases hcomm
      | error g => simp

/-- Two probe operations with one id and one with another one. -/
def twinsAndOther : List Probe := [twin .z, twin .x, { twin .y with id := .given (.text "q") }]

def removal : Command := .removeProbe (.text "p")

def removalOfMove : Command := .removeMovement (.text "q") (.text "step-a") (.text "pre")

/-- The removal of a probe operation shifts the place of another one, which loses its move in either
order. -/
theorem edits_commute_removals : AreDifferent (.text "p") (.text "q") ∧
    ∃ qs, (removal.apply twinsAndOther >>= removalOfMove.apply) = .ok qs ∧
      (removalOfMove.apply twinsAndOther >>= removal.apply) = .ok qs := by
  have hij : AreDifferent (.text "p") (.text "q") := areDifferent_text_iff.2 (by decide)
  obtain ⟨-, hsame⟩ := edits_commute (c := removal) (d := removalOfMove) hij rfl rfl twinsAndOther
  have hmade : (removal.apply twinsAndOther >>= removalOfMove.apply).isOk = true := by decide +kernel
  have hmade' : (removalOfMove.apply twinsAndOther >>= removal.apply).isOk = true := by decide +kernel
  obtain ⟨qs, hqs⟩ := isOk_iff.1 hmade
  obtain ⟨qs', hqs'⟩ := isOk_iff.1 hmade'
  exact ⟨hij, qs, hqs, by rw [hqs', hsame qs qs' hqs hqs']⟩

end TouchProbe.Edit
