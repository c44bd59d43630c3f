import TouchProbe.Program.Reader
import Mathlib

/-!
The runs of clearing pauses are found by a pass of their own, and a line is read by its role in
them.  Here the two passes become one: the role of a line depends on the lines after it alone, once
it is known whether a run is open, so the reading of a program is a recursion along its lines that
looks ahead to the end of a run.
-/

namespace TouchProbe.Program

open State

/-- The clearing pauses up to the next line that ends a run. -/
def pausesAhead : List Mark → Nat
  | [] => 0
  | .clears :: rest => pausesAhead rest + 1
  | .passes :: rest => pausesAhead rest
  | .ends :: _ => 0

/-- The role of a clearing pause, given whether a run is open and the marks after it. -/
def pauseRole (inRun : Bool) (rest : List Mark) : Role :=
  if inRun then .member
  else if leastRun ≤ pausesAhead rest + 1 then .starts (pausesAhead rest + 1)
  else .free

def rolesFrom (inRun : Bool) : List Mark → List Role
  | [] => []
  | .clears :: rest => pauseRole inRun rest :: rolesFrom true rest
  | .passes :: rest => .free :: rolesFrom inRun rest
  | .ends :: rest => .free :: rolesFrom false rest

/-- Where the clearing pauses up to the next line that ends a run stand. -/
def pausePlaces (index : Nat) : List Mark → List Nat
  | [] => []
  | .clears :: rest => index :: pausePlaces (index + 1) rest
  | .passes :: rest => pausePlaces (index + 1) rest
  | .ends :: _ => []

def laterRuns (index : Nat) : List Mark → List (List Nat)
  | [] => []
  | .clears :: rest | .passes :: rest => laterRuns (index + 1) rest
  | .ends :: rest => runsFrom (index + 1) [] rest

theorem length_pausePlaces (index : Nat) (marks : List Mark) :
    (pausePlaces index marks).length = pausesAhead marks := by
  induction marks generalizing index with
  | nil => rfl
  | cons mark rest ih => cases mark <;> simp [pausePlaces, pausesAhead, ih]

theorem runsFrom_eq (index : Nat) (reversed : List Nat) (marks : List Mark) :
    runsFrom index reversed marks =
      closeRun ((pausePlaces index marks).reverse ++ reversed) ++ laterRuns index marks := by
  induction marks generalizing index reversed with
  | nil => simp [runsFrom, pausePlaces, laterRuns]
  | cons mark rest ih =>
      cases mark with
      | clears => simp [runsFrom, pausePlaces, laterRuns, ih]
      | passes => simp [runsFrom, pausePlaces, laterRuns, ih]
      | ends => simp [runsFrom, pausePlaces, laterRuns]

theorem mem_closeRun {reversed r : List Nat} :
    r ∈ closeRun reversed ↔ r = reversed.reverse ∧ leastRun ≤ r.length := by
  rw [closeRun]
  split
  · next hlong =>
    rw [List.mem_singleton]
    refine (and_iff_left_of_imp fun h => ?_).symm
    rwa [h, List.length_reverse]
  · next hshort =>
    refine iff_of_false (by simp) ?_
    rintro ⟨rfl, hlong⟩
    exact hshort (by rwa [List.length_reverse] at hlong)

theorem mem_members_closeRun {reversed : List Nat} {i : Nat} (h : i ∈ members (closeRun reversed)) :
    i ∈ reversed := by
  obtain ⟨r, hr, hi⟩ := List.mem_flatten.1 h
  rw [(mem_closeRun.1 hr).1] at hi
  exact List.mem_reverse.1 hi

/-- The members of runs are found among the lines that were seen or are still ahead. -/
theorem mem_members_runsFrom {index i : Nat} {reversed : List Nat} {marks : List Mark}
    (h : i ∈ members (runsFrom index reversed marks)) : i ∈ reversed ∨ index ≤ i := by
  induction marks generalizing index reversed with
  | nil => exact .inl (mem_members_closeRun h)
  | cons mark rest ih =>
      cases mark with
      | clears =>
          rcases ih h with h | h
          · rcases List.mem_cons.1 h with rfl | h
            · exact .inr (le_refl _)
            · exact .inl h
          · exact .inr (by omega)
      | passes =>
          rcases ih h with h | h
          · exact .inl h
          · exact .inr (by omega)
      | ends =>
          rw [runsFrom, members, List.flatten_append, List.mem_append] at h
          rcases h with h | h
          · exact .inl (mem_members_closeRun h)
          · rcases ih h with h | h
            · cases h
            · exact .inr (by omega)

theorem mem_members_laterRuns {index i : Nat} {marks : List Mark}
    (h : i ∈ members (laterRuns index marks)) : index < i := by
  induction marks generalizing index with
  | nil => cases h
  | cons mark rest ih =>
      cases mark with
      | clears => exact (Nat.lt_succ_self _).trans (ih h)
      | passes => exact (Nat.lt_succ_self _).trans (ih h)
      | ends =>
          rcases mem_members_runsFrom h with h | h
          · cases h
          · exact h

/-! ### Roles -/

theorem mem_members_of_starts {rs : List (List Nat)} {i n : Nat} (h : (i, n) ∈ starts rs) :
    i ∈ members rs := by
  rw [starts, List.mem_filterMap] at h
  obtain ⟨r, hr, hi⟩ := h
  cases r with
  | nil => cases hi
  | cons first r =>
      simp only [List.head?_cons, Option.map_some, Option.some.injEq, Prod.mk.injEq] at hi
      exact List.mem_flatten.2 ⟨_, hr, hi.1 ▸ List.mem_cons_self⟩

theorem lookup_starts_of_not_mem {rs : List (List Nat)} {i : Nat} (h : i ∉ members rs) :
    (starts rs).lookup i = none := by
  rw [List.lookup_eq_none_iff]
  rintro ⟨j, n⟩ hj
  have hne : i ≠ j := fun q => h (q ▸ mem_members_of_starts hj)
  simpa using hne

theorem roleOf_of_not_mem {rs : List (List Nat)} {i : Nat} (h : i ∉ members rs) :
    roleOf rs i = .free := by
  rw [roleOf, lookup_starts_of_not_mem h]
  simp [h]

theorem roleOf_append_of_not_mem {rs ss : List (List Nat)} {i : Nat} (h : i ∉ members rs) :
    roleOf (rs ++ ss) i = roleOf ss i := by
  have hstarts : (starts (rs ++ ss)).lookup i = (starts ss).lookup i := by
    rw [starts, List.filterMap_append, List.lookup_append]
    have := lookup_starts_of_not_mem h
    rw [starts] at this
    rw [this]
    rfl
  have hmembers : (members (rs ++ ss)).contains i = (members ss).contains i := by
    rw [members, List.flatten_append, Bool.eq_iff_iff, List.contains_iff_mem,
      List.contains_iff_mem, List.mem_append]
    exact or_iff_right h
  rw [roleOf, hstarts, hmembers, roleOf]

theorem closeRun_of_le {reversed : List Nat} (h : leastRun ≤ reversed.length) :
    closeRun reversed = [reversed.reverse] := if_pos h

theorem closeRun_of_lt {reversed : List Nat} (h : ¬ leastRun ≤ reversed.length) :
    closeRun reversed = [] := if_neg h

theorem roleOf_head (first : Nat) (others : List Nat) (rs : List (List Nat)) :
    roleOf ((first :: others) :: rs) first = .starts (others.length + 1) := by
  simp [roleOf, starts]

theorem roleOf_of_mem_tail {first i : Nat} {others : List Nat} {rs : List (List Nat)}
    (hfirst : i ≠ first) (hmem : i ∈ others) (hlater : i ∉ members rs) :
    roleOf ((first :: others) :: rs) i = .member := by
  have hstarts : starts ((first :: others) :: rs) = (first, others.length + 1) :: starts rs := rfl
  rw [roleOf, hstarts, List.lookup_cons, beq_false_of_ne hfirst, lookup_starts_of_not_mem hlater]
  simp [members, hmem]

theorem not_mem_members_laterRuns (index : Nat) (rest : List Mark) :
    index ∉ members (laterRuns (index + 1) rest) := by
  intro h
  have := mem_members_laterRuns h
  omega

/-- A pause before which no run is open starts one if enough pauses follow it. -/
theorem roleOf_first_pause (index : Nat) (rest : List Mark) :
    roleOf (runsFrom (index + 1) [index] rest) index = pauseRole false rest := by
  have hlen := length_pausePlaces (index + 1) rest
  rw [runsFrom_eq, pauseRole, if_neg Bool.false_ne_true]
  by_cases hlong : leastRun ≤ pausesAhead rest + 1
  · rw [if_pos hlong, closeRun_of_le (by simpa [hlen] using hlong), List.reverse_append,
      List.reverse_reverse, List.reverse_singleton, List.singleton_append, List.singleton_append,
      roleOf_head, hlen]
  · rw [if_neg hlong, closeRun_of_lt (by simpa [hlen] using hlong), List.nil_append,
      roleOf_of_not_mem (not_mem_members_laterRuns index rest)]

/-- A pause before which a run is open is a member of it. -/
theorem roleOf_later_pause {index : Nat} {reversed : List Nat} (rest : List Mark)
    (hseen : ∀ j ∈ reversed, j < index) (hne : reversed ≠ []) :
    roleOf (runsFrom (index + 1) (index :: reversed) rest) index = .member := by
  have hlong : leastRun ≤
      ((pausePlaces (index + 1) rest).reverse ++ index :: reversed).length := by
    have := List.length_pos_of_ne_nil hne
    simp only [leastRun, List.length_append, List.length_cons]
    omega
  obtain ⟨first, others, hr⟩ := List.exists_cons_of_ne_nil (List.reverse_ne_nil_iff.2 hne)
  have hfirst : first < index := by
    apply hseen
    rw [← List.mem_reverse, hr]
    exact List.mem_cons_self
  rw [runsFrom_eq, closeRun_of_le hlong, List.reverse_append, List.reverse_cons, hr]
  exact roleOf_of_mem_tail hfirst.ne' (by simp) (not_mem_members_laterRuns index rest)

/-- The role of a pause, from the run that it stands in. -/
theorem roleOf_pause {index : Nat} {reversed : List Nat} {rest : List Mark}
    (hseen : ∀ j ∈ reversed, j < index) :
    roleOf (runsFrom (index + 1) (index :: reversed) rest) index =
      pauseRole (!reversed.isEmpty) rest := by
  by_cases hne : reversed = []
  · subst hne
    exact roleOf_first_pause index rest
  · rw [roleOf_later_pause rest hseen hne, pauseRole, if_pos (by simpa using hne)]

/-- The roles of lines in the runs among them. -/
theorem roleOf_runsFrom {marks : List Mark} {index : Nat} {reversed : List Nat}
    (hseen : ∀ j ∈ reversed, j < index) {k : Nat} (hk : k < marks.length) :
    (rolesFrom (!reversed.isEmpty) marks)[k]? =
      some (roleOf (runsFrom index reversed marks) (index + k)) := by
  induction marks generalizing index reversed k with
  | nil => cases hk
  | cons mark rest ih =>
      have hnone {js : List Nat} (hjs : ∀ j ∈ js, j < index) {rs : List Mark} :
          index ∉ members (runsFrom (index + 1) js rs) := by
        intro h
        rcases mem_members_runsFrom h with h | h
        · exact absurd (hjs index h) (by omega)
        · omega
      have hnext : ∀ j ∈ reversed, j < index + 1 := fun j hj => (hseen j hj).trans (by omega)
      cases mark with
      | clears =>
          have hopen : ∀ j ∈ index :: reversed, j < index + 1 := by
            intro j hj
            rcases List.mem_cons.1 hj with rfl | hj
            · exact Nat.lt_succ_self _
            · exact hnext j hj
          cases k with
          | zero => exact congrArg some (roleOf_pause hseen).symm
          | succ k =>
              have := ih hopen (k := k) (Nat.lt_of_succ_lt_succ hk)
              rwa [show index + 1 + k = index + (k + 1) by omega] at this
      | passes =>
          cases k with
          | zero => exact congrArg some (roleOf_of_not_mem (hnone hseen)).symm
          | succ k =>
              have := ih hnext (k := k) (Nat.lt_of_succ_lt_succ hk)
              rwa [show index + 1 + k = index + (k + 1) by omega] at this
      | ends =>
          have hclosed {j : Nat} (hj : index ≤ j) : j ∉ members (closeRun reversed) :=
            fun h => absurd (hseen j (mem_members_closeRun h)) (by omega)
          rw [runsFrom, roleOf_append_of_not_mem (hclosed (by omega))]
          cases k with
          | zero =>
              have hfresh : ∀ j ∈ ([] : List Nat), j < index := by simp
              exact congrArg some (roleOf_of_not_mem (hnone hfresh)).symm
          | succ k =>
              have hfresh : ∀ j ∈ ([] : List Nat), j < index + 1 := by simp
              have := ih hfresh (k := k) (Nat.lt_of_succ_lt_succ hk)
              rwa [show index + 1 + k = index + (k + 1) by omega] at this

theorem length_rolesFrom (inRun : Bool) (marks : List Mark) :
    (rolesFrom inRun marks).length = marks.length := by
  induction marks generalizing inRun with
  | nil => rfl
  | cons mark rest ih => cases mark <;> simp [rolesFrom, ih]

/-- The roles of the lines of a program are those by their marks. -/
theorem getElem?_rolesFrom {lines : List (List Char)} {k : Nat} (hk : k < lines.length) :
    (rolesFrom false (lines.map markOf))[k]? = some (roleOf (runs lines) k) := by
  have hfresh : ∀ j ∈ ([] : List Nat), j < 0 := by simp
  have hmarks : k < (lines.map markOf).length := by rwa [List.length_map]
  have hrole := roleOf_runsFrom hfresh hmarks
  rwa [Nat.zero_add] at hrole

/-! ### Reading along the lines -/

/-- The state after more lines, given whether a run is open. -/
def readFrom (inRun : Bool) (index : Nat) (st : State) : List (List Char) → State
  | [] => st
  | line :: rest =>
    match markOf line with
    | .clears =>
      readFrom true (index + 1)
        (st.readLine index (pauseRole inRun (rest.map markOf)) line) rest
    | .passes => readFrom inRun (index + 1) (st.readLine index .free line) rest
    | .ends => readFrom false (index + 1) (st.readLine index .free line) rest

theorem readFrom_eq_foldl (inRun : Bool) (index : Nat) (st : State) (lines : List (List Char)) :
    readFrom inRun index st lines =
      ((lines.zipIdx index).zip (rolesFrom inRun (lines.map markOf))).foldl
        (fun st l => st.readLine l.1.2 l.2 l.1.1) st := by
  induction lines generalizing inRun index st with
  | nil => rfl
  | cons line rest ih =>
      rw [readFrom.eq_def, List.map_cons]
      cases h : markOf line <;> simp [h, rolesFrom, ih]

/-- Reading a program is one pass along its lines. -/
theorem readLines_eq (lines : List (List Char)) : readLines lines = readFrom false 0 {} lines := by
  have hroles : lines.zipIdx.map (fun l => (l, roleOf (runs lines) l.2)) =
      lines.zipIdx.zip (rolesFrom false (lines.map markOf)) := by
    apply List.ext_getElem
    · simp [length_rolesFrom]
    · intro k h1 h2
      have hk : k < lines.length := by simpa using h1
      have hlen : k < (rolesFrom false (lines.map markOf)).length := by
        rwa [length_rolesFrom, List.length_map]
      have hrole := getElem?_rolesFrom hk
      rw [List.getElem?_eq_getElem hlen, Option.some.injEq] at hrole
      simp [hrole]
  rw [readFrom_eq_foldl, readLines, ← hroles, List.foldl_map]

end TouchProbe.Program
