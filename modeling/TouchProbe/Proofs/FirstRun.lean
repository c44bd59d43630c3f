import TouchProbe.Proofs.Headers

/-!
The setup of the machine ends with the first run of clearing pauses.  Which line starts that run is
settled by the lines alone; the state before a line knows the length of a run just when the first
one started before, and it knows of a setup only when a line before named machine coordinates or
started the spindle.
-/

namespace TouchProbe.Program

open Text State

section Program

variable (lines : List (List Char))

def startsRunAt (k : Nat) : Bool := (roleOf (runs lines) k).run?.isSome

/-- The first line of the first run among the first lines of a program. -/
def firstRunTo (k : Nat) : Option Nat := (List.range k).find? (startsRunAt lines)

/-- The steps that the first run discards, if it starts among the first lines of a program. -/
def discardedTo (k : Nat) : List Step :=
  match firstRunTo lines k with
  | some r => (stateAt lines r).setupMoves
  | none => []

variable {lines}

theorem firstRunTo_succ (k : Nat) :
    firstRunTo lines (k + 1) =
      (firstRunTo lines k).or (if startsRunAt lines k then some k else none) := by
  rw [firstRunTo, firstRunTo, List.range_succ, List.find?_append, List.find?_singleton]

/-- The length of the first run is known after its first line. -/
theorem isNone_dwells_stateAt {k : Nat} (hk : k ≤ lines.length) :
    (stateAt lines k).dwells.isNone = (firstRunTo lines k).isNone := by
  induction k with
  | zero => rfl
  | succ k ih =>
      have hnext : (stateAt lines (k + 1)).dwells =
          (stateAt lines k).dwells.or (roleOf (runs lines) k).run? :=
        congrArg Header.dwells (header_stateAt_succ (List.getElem?_eq_getElem hk))
      rw [hnext, firstRunTo_succ, Option.isNone_or, Option.isNone_or, ih (Nat.le_of_succ_le hk),
        startsRunAt]
      cases (roleOf (runs lines) k).run? <;> simp

theorem startsFirstAt_eq {k : Nat} (hk : k ≤ lines.length) :
    startsFirstAt lines k = ((firstRunTo lines k).isNone && startsRunAt lines k) := by
  rw [← isNone_dwells_stateAt hk, startsFirstAt, startsRunAt]
  cases roleOf (runs lines) k <;> simp [startsFirst, Role.run?]

theorem discardedTo_succ {k : Nat} (hk : k ≤ lines.length) :
    discardedTo lines (k + 1) =
      if startsFirstAt lines k then (stateAt lines k).setupMoves else discardedTo lines k := by
  rw [discardedTo, discardedTo, firstRunTo_succ, startsFirstAt_eq hk]
  cases firstRunTo lines k with
  | some r => simp
  | none => cases startsRunAt lines k <;> simp

theorem discardedTo_of_startsFirst {k : Nat} (hk : k ≤ lines.length)
    (h : startsFirstAt lines k = true) : discardedTo lines k = [] := by
  rw [startsFirstAt_eq hk, Bool.and_eq_true, Option.isNone_iff_eq_none] at h
  rw [discardedTo, h.1]

/-- A machine has been set up by one of the lines before. -/
theorem exists_setsUp {k : Nat} (hk : k ≤ lines.length) (h : (stateAt lines k).isSetUp = true) :
    ∃ i < k, ∃ line, lines[i]? = some line ∧ setsUp (roleOf (runs lines) i) line = true := by
  induction k with
  | zero => cases h
  | succ k ih =>
      have hline := List.getElem?_eq_getElem (show k < lines.length from hk)
      have hnext : (stateAt lines (k + 1)).isSetUp =
          ((stateAt lines k).isSetUp || setsUp (roleOf (runs lines) k) lines[k]) :=
        congrArg Header.isSetUp (header_stateAt_succ hline)
      rw [hnext, Bool.or_eq_true] at h
      rcases h with h | h
      · obtain ⟨i, hi, hsets⟩ := ih (Nat.le_of_succ_le hk) h
        exact ⟨i, hi.trans (Nat.lt_succ_self k), hsets⟩
      · exact ⟨k, Nat.lt_succ_self k, _, hline, h⟩

/-- Nothing is discarded unless a line before the first run sets up the machine. -/
theorem setsUp_of_discarded {k : Nat} (hk : k ≤ lines.length) (h : discardedTo lines k ≠ []) :
    ∃ r, firstRunTo lines k = some r ∧
      ∃ i < r, ∃ line, lines[i]? = some line ∧ setsUp (roleOf (runs lines) i) line = true := by
  rw [discardedTo] at h
  split at h
  · next r hr =>
    have hmem := List.mem_of_find?_eq_some hr
    refine ⟨r, hr, exists_setsUp ((List.mem_range.1 hmem).le.trans hk) ?_⟩
    by_contra hset
    rw [setupMoves, if_neg hset] at h
    exact h rfl
  · exact absurd rfl h

end Program

end TouchProbe.Program
