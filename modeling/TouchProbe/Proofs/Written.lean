import TouchProbe.Proofs.Programs

/-!
What a program is made of when writing succeeds, whatever its numbers are: every line of it, as a
function of the operations and the settings.
-/

namespace TouchProbe

theorem bind_eq_ok {ε α β : Type} {x : Except ε α} {f : α → Except ε β} {b : β} :
    (x >>= f) = .ok b ↔ ∃ a, x = .ok a ∧ f a = .ok b := by
  cases x <;> simp [bind, Except.bind]

theorem map_eq_ok {ε α β : Type} {x : Except ε α} {f : α → β} {b : β} :
    x.map f = .ok b ↔ ∃ a, x = .ok a ∧ f a = b := by
  cases x <;> simp [Except.map]

theorem isOk_iff {ε α : Type} {x : Except ε α} : x.isOk = true ↔ ∃ a, x = .ok a := by
  cases x <;> simp [Except.isOk, Except.toBool]

theorem mapM_cons_eq_ok {ε α β : Type} {f : α → Except ε β} {a : α} {l : List α} {bs : List β} :
    (a :: l).mapM f = .ok bs ↔ ∃ b, f a = .ok b ∧ ∃ cs, l.mapM f = .ok cs ∧ b :: cs = bs := by
  rw [List.mapM_cons, bind_eq_ok]
  constructor
  · rintro ⟨b, hb, h⟩
    obtain ⟨cs, hcs, h⟩ := bind_eq_ok.1 h
    exact ⟨b, hb, cs, hcs, Except.ok.inj h⟩
  · rintro ⟨b, hb, cs, hcs, rfl⟩
    exact ⟨b, hb, bind_eq_ok.2 ⟨cs, hcs, rfl⟩⟩

/-- A traversal that succeeds applies a function that says what each success is. -/
theorem eq_map_of_mapM {ε α β : Type} {f : α → Except ε β} {g : α → β} {l : List α} {bs : List β}
    (hg : ∀ a b, f a = .ok b → b = g a) (h : l.mapM f = .ok bs) : bs = l.map g := by
  induction l generalizing bs with
  | nil => exact (Except.ok.inj h).symm
  | cons a l ih =>
      obtain ⟨b, hb, cs, hcs, rfl⟩ := mapM_cons_eq_ok.1 h
      rw [hg a b hb, ih hcs, List.map_cons]

theorem forall_of_mapM {ε α β : Type} {f : α → Except ε β} {l : List α} {bs : List β}
    (h : l.mapM f = .ok bs) : ∀ a ∈ l, ∃ b, f a = .ok b := by
  induction l generalizing bs with
  | nil => simp
  | cons a l ih =>
      obtain ⟨b, hb, cs, hcs, rfl⟩ := mapM_cons_eq_ok.1 h
      rw [List.forall_mem_cons]
      exact ⟨⟨b, hb⟩, ih hcs⟩

namespace Program

open Text Number

/-! ### Steps -/

theorem writeNumber_eq_ok {d : Datum} {s : String} (h : writeNumber d = .ok s) :
    d.toFloat = .ok (floatOf d) ∧ s = writeFloat (floatOf d) := by
  obtain ⟨x, hx, rfl⟩ := map_eq_ok.1 h
  have hfloat : floatOf d = x := by rw [floatOf, hx]
  rw [hfloat]
  exact ⟨hx, rfl⟩

/-- The values of a rapid move that are numbers, as floats. -/
def numberEntries (vs : AxisValues) : List (Axis × Float) :=
  (vs.entries.filter fun e => e.2.toNumber.isOk).map fun e => (e.1, floatOf e.2)

theorem axisWords_eq_ok {vs : AxisValues} {words : List String} (h : axisWords vs = .ok words) :
    words = (numberEntries vs).map fun e => e.1.name ++ writeFloat e.2 := by
  rw [axisWords] at h
  rw [numberEntries, List.map_map]
  refine eq_map_of_mapM (fun e s hs => ?_) h
  obtain ⟨t, ht, hs⟩ := bind_eq_ok.1 hs
  obtain ⟨-, rfl⟩ := writeNumber_eq_ok ht
  exact (Except.ok.inj hs).symm

/-- The line of a step, where it has one. -/
def writtenStep : Step → Option Line
  | .rapid r =>
    match r.axes with
    | .values vs =>
      if (numberEntries vs).isEmpty then none
      else some (.command (rapidCommand r (numberEntries vs)) (commentOf r.description))
    | _ => none
  | .dwell d =>
    if d.time.isTruthy then some (.command (pauseCommand d) (commentOf d.description)) else none

theorem stepLine?_eq_ok {s : Step} {l : Option Line} (h : stepLine? s = .ok l) :
    l = writtenStep s := by
  cases s with
  | rapid r =>
      rw [stepLine?] at h
      obtain ⟨vs, hvs, h⟩ := bind_eq_ok.1 h
      obtain ⟨words, hwords, h⟩ := bind_eq_ok.1 h
      rw [axisWords_eq_ok hwords] at h
      cases haxes : r.axes with
      | names as => rw [haxes] at hvs; cases hvs
      | letters as => rw [haxes] at hvs; cases hvs
      | values ws =>
          rw [haxes] at hvs
          obtain rfl : ws = vs := Except.ok.inj hvs
          simp only [writtenStep, haxes]
          rw [List.isEmpty_map] at h
          split at h
          next hempty =>
            rw [if_pos hempty]
            exact (Except.ok.inj h).symm
          next hne =>
            rw [if_neg hne]
            exact (Except.ok.inj h).symm
  | dwell d =>
      rw [stepLine?] at h
      rw [writtenStep]
      cases htime : d.time.isTruthy with
      | false =>
          rw [htime] at h
          exact (Except.ok.inj h).symm
      | true =>
          rw [htime] at h
          obtain ⟨t, ht, h⟩ := bind_eq_ok.1 h
          obtain ⟨-, rfl⟩ := writeNumber_eq_ok ht
          exact (Except.ok.inj h).symm

/-- The lines of steps under a banner. -/
def writtenMoves (moves : List Step) (banner : String) : List Line :=
  if moves.isEmpty then [] else .banner banner :: moves.filterMap writtenStep ++ [.blank]

theorem movesLines_eq_ok {moves : List Step} {banner : String} {ls : List Line}
    (h : movesLines moves banner = .ok ls) : ls = writtenMoves moves banner := by
  rw [movesLines] at h
  rw [writtenMoves]
  split at h
  next hempty =>
    rw [if_pos hempty]
    exact (Except.ok.inj h).symm
  next hne =>
    rw [if_neg hne]
    obtain ⟨ms, hms, h⟩ := bind_eq_ok.1 h
    rw [eq_map_of_mapM (fun s l => stepLine?_eq_ok) hms, List.filterMap_map] at h
    exact (Except.ok.inj h).symm

/-! ### Operations -/

theorem probeLines_eq_ok {p : Probe} {ls : List Line} (h : probeLines p = .ok ls) :
    ls = [probeLine p, originLine p, backoffLine p, .blank] := by
  rw [probeLines] at h
  obtain ⟨distance, hdistance, h⟩ := bind_eq_ok.1 h
  obtain ⟨feedRate, hfeedRate, h⟩ := bind_eq_ok.1 h
  obtain ⟨offset, hoffset, h⟩ := bind_eq_ok.1 h
  obtain ⟨backoff, hbackoff, h⟩ := bind_eq_ok.1 h
  obtain ⟨-, rfl⟩ := writeNumber_eq_ok hdistance
  obtain ⟨-, rfl⟩ := writeNumber_eq_ok hfeedRate
  obtain ⟨-, rfl⟩ := writeNumber_eq_ok hoffset
  obtain ⟨-, rfl⟩ := writeNumber_eq_ok hbackoff
  rw [← Except.ok.inj h, probeLine, probeCommand]
  cases p.isForward <;> rfl

/-- The lines of an operation from its banner to the last line of its probe. -/
def writtenToProbe (count number : Nat) (p : Probe) : List Line :=
  .banner (headBanner number p.axis) :: writtenMoves p.preMoves (preBanner number) ++
    List.replicate count clearingLine ++
    [.blank, probeLine p, originLine p, backoffLine p, .blank]

def writtenOperation (count number : Nat) (p : Probe) : List Line :=
  writtenToProbe count number p ++ writtenMoves p.postMoves (postBanner number) ++ [.blank]

theorem operationLines_eq_ok {dwells : Datum} {number : Nat} {p : Probe} {ls : List Line}
    (h : operationLines dwells number p = .ok ls) :
    ∃ count, pauseCount dwells = .ok count ∧ ls = writtenOperation count number p := by
  rw [operationLines] at h
  obtain ⟨pre, hpre, h⟩ := bind_eq_ok.1 h
  obtain ⟨count, hcount, h⟩ := bind_eq_ok.1 h
  obtain ⟨probe, hprobe, h⟩ := bind_eq_ok.1 h
  obtain ⟨post, hpost, h⟩ := bind_eq_ok.1 h
  refine ⟨count, hcount, ?_⟩
  have hpre' : movesLines p.preMoves (preBanner number) = .ok pre := hpre
  have hpost' : movesLines p.postMoves (postBanner number) = .ok post := hpost
  rw [← Except.ok.inj h, movesLines_eq_ok hpre', movesLines_eq_ok hpost', probeLines_eq_ok hprobe,
    headBanner_eq, writtenOperation, writtenToProbe]

/-- The lines of operations, the first of which has a given number. -/
def writtenOperations (count : Nat) : Nat → List Probe → List Line
  | _, [] => []
  | number, p :: ops => writtenOperation count number p ++ writtenOperations count (number + 1) ops

theorem operations_eq_ok {dwells : Datum} {ops : List Probe} {number : Nat}
    {lss : List (List Line)}
    (h : ((ops.zipIdx number).mapM fun p => operationLines dwells (p.2 + 1) p.1) = .ok lss)
    {count : Nat} (hcount : ops ≠ [] → pauseCount dwells = .ok count) :
    lss.flatten = writtenOperations count (number + 1) ops := by
  induction ops generalizing number lss with
  | nil =>
      rw [← Except.ok.inj h]
      rfl
  | cons p ops ih =>
      obtain ⟨ls, hls, rest, hrest, rfl⟩ := mapM_cons_eq_ok.1 h
      obtain ⟨k, hk, rfl⟩ := operationLines_eq_ok hls
      obtain rfl : k = count := Except.ok.inj (hk.symm.trans (hcount (List.cons_ne_nil _ _)))
      rw [List.flatten_cons, ih hrest fun _ => hk, writtenOperations]

/-! ### Programs -/

theorem headLines_eq_ok {settings : Settings} {ls : List Line} (h : headLines settings = .ok ls) :
    ls = writtenHead settings := by
  have hall := h
  rw [headLines] at h
  obtain ⟨start, hstart, h⟩ := bind_eq_ok.1 h
  obtain ⟨speed, hspeed, h⟩ := bind_eq_ok.1 h
  have hfloats : HasFloats settings := by
    refine ⟨fun a => ?_, (writeNumber_eq_ok hspeed).1⟩
    obtain ⟨l, hl⟩ := forall_of_mapM hstart a (by cases a <;> decide)
    obtain ⟨t, ht, -⟩ := bind_eq_ok.1 hl
    exact (writeNumber_eq_ok ht).1
  exact Except.ok.inj (hall.symm.trans (headLines_eq hfloats))

/-- The lines of a program that was written. -/
theorem lines_eq_ok {ops : List Probe} {settings : Settings} {ls : List Line}
    (h : lines ops settings = .ok ls) : ∃ count, (ops ≠ [] → pauseCount settings.dwells = .ok count) ∧
      ls = writtenHead settings ++ writtenOperations count 1 ops ++ footLines := by
  rw [lines] at h
  obtain ⟨head, hhead, h⟩ := bind_eq_ok.1 h
  obtain ⟨lss, hlss, h⟩ := bind_eq_ok.1 h
  have hcount : ∃ count, ops ≠ [] → pauseCount settings.dwells = .ok count := by
    cases ops with
    | nil => exact ⟨0, fun hne => absurd rfl hne⟩
    | cons p ops =>
        obtain ⟨ls, hls, -⟩ := mapM_cons_eq_ok.1 hlss
        obtain ⟨count, hcount, -⟩ := operationLines_eq_ok hls
        exact ⟨count, fun _ => hcount⟩
  obtain ⟨count, hcount⟩ := hcount
  refine ⟨count, hcount, ?_⟩
  rw [← Except.ok.inj h, headLines_eq_ok hhead, operations_eq_ok hlss hcount]

end Program

end TouchProbe
