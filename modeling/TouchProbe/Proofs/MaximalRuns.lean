import TouchProbe.Proofs.Causality
import TouchProbe.Proofs.FirstRun

/-!
The runs of clearing pauses are the maximal ones.  The pass that finds them keeps the run that is
open, which holds the clearing pauses since the last line that ended one; where such a line or the
end of the program comes, the open run is complete, and it is one of those that are found if it is
long enough.  A set of clearing pauses is maximal just when it is such an open run.
-/

namespace TouchProbe.Program

open Text State

/-! ### Open runs -/

section Marks

variable {marks : List Mark}

/-- The clearing pauses before a place that no line up to it ends. -/
def openAt (marks : List Mark) (e : Nat) : List Nat :=
  (List.range e).filter fun i =>
    marks[i]? = some .clears ∧ ∀ k < e, i < k → marks[k]? ≠ some .ends

/-- Whether an open run is complete at a place. -/
def ClosesAt (marks : List Mark) (e : Nat) : Prop := e = marks.length ∨ marks[e]? = some .ends

theorem mem_openAt {i e : Nat} :
    i ∈ openAt marks e ↔
      i < e ∧ marks[i]? = some .clears ∧ ∀ k, i < k → k < e → marks[k]? ≠ some .ends := by
  simp only [openAt, List.mem_filter, List.mem_range, decide_eq_true_eq]
  refine and_congr_right fun _ => and_congr_right fun _ => ?_
  exact ⟨fun h k hik hke => h k hke hik, fun h k hke hik => h k hik hke⟩

theorem pairwise_openAt (e : Nat) : (openAt marks e).Pairwise (· < ·) :=
  List.pairwise_lt_range.filter _

theorem openAt_succ {e : Nat} (h : marks[e]? ≠ some .ends) :
    openAt marks (e + 1) = openAt marks e ++ if marks[e]? = some .clears then [e] else [] := by
  have hbefore : (List.range e).filter (fun i =>
        marks[i]? = some .clears ∧ ∀ k < e + 1, i < k → marks[k]? ≠ some .ends) = openAt marks e := by
    refine List.filter_congr fun i _ => decide_eq_decide.2 (and_congr_right fun _ => ?_)
    refine ⟨fun hnone k hk => hnone k (hk.trans (Nat.lt_succ_self e)), fun hnone k hk hik => ?_⟩
    rcases Nat.lt_succ_iff_lt_or_eq.1 hk with hk | rfl
    · exact hnone k hk hik
    · exact h
  have hlast : [e].filter (fun i =>
        marks[i]? = some .clears ∧ ∀ k < e + 1, i < k → marks[k]? ≠ some .ends) =
      if marks[e]? = some .clears then [e] else [] := by
    have hnone : ∀ k < e + 1, e < k → marks[k]? ≠ some .ends := fun k hk hek => absurd hk (by omega)
    simp only [List.filter_singleton, and_iff_left hnone, Bool.cond_decide]
  rw [openAt, List.range_succ, List.filter_append, hbefore, hlast]

theorem openAt_succ_of_ends {e : Nat} (h : marks[e]? = some .ends) : openAt marks (e + 1) = [] := by
  rw [List.eq_nil_iff_forall_not_mem]
  intro i hi
  obtain ⟨hlt, hclears, hnone⟩ := mem_openAt.1 hi
  rcases Nat.lt_succ_iff_lt_or_eq.1 hlt with hlt | rfl
  · exact hnone e hlt (Nat.lt_succ_self e) h
  · rw [h] at hclears
    cases hclears

/-- At a line that ends no run the open run is not complete. -/
theorem exists_closesAt_succ_iff {k : Nat} (hlt : k < marks.length) (h : marks[k]? ≠ some .ends)
    (P : Nat → Prop) :
    (∃ e, k + 1 ≤ e ∧ e ≤ marks.length ∧ ClosesAt marks e ∧ P e) ↔
      ∃ e, k ≤ e ∧ e ≤ marks.length ∧ ClosesAt marks e ∧ P e := by
  refine exists_congr fun e => ⟨fun h => ⟨Nat.le_of_succ_le h.1, h.2⟩, ?_⟩
  rintro ⟨hke, he, hcloses, hP⟩
  have hne : k ≠ e := by
    rintro rfl
    exact hcloses.elim hlt.ne h
  exact ⟨Nat.lt_of_le_of_ne hke hne, he, hcloses, hP⟩

/-- The runs that are found from a place on are the open runs that become complete there or
later. -/
theorem mem_runsFrom {k : Nat} {rest : List Mark} (hrest : marks.drop k = rest) (hk : k ≤ marks.length)
    {r : List Nat} :
    r ∈ runsFrom k (openAt marks k).reverse rest ↔
      ∃ e, k ≤ e ∧ e ≤ marks.length ∧ ClosesAt marks e ∧ r = openAt marks e ∧ leastRun ≤ r.length := by
  induction rest generalizing k with
  | nil =>
      have hend : k = marks.length := le_antisymm hk (List.drop_eq_nil_iff.1 hrest)
      rw [runsFrom, mem_closeRun, List.reverse_reverse]
      constructor
      · rintro ⟨rfl, hlong⟩
        exact ⟨k, le_rfl, hk, .inl hend, rfl, hlong⟩
      · rintro ⟨e, hke, he, -, rfl, hlong⟩
        obtain rfl : k = e := le_antisymm hke (he.trans hend.ge)
        exact ⟨rfl, hlong⟩
  | cons mark rest ih =>
      have hlt : k < marks.length := by
        by_contra hge
        rw [List.drop_of_length_le (not_lt.1 hge)] at hrest
        cases hrest
      have hsplit := List.drop_eq_getElem_cons hlt
      rw [hrest, List.cons.injEq] at hsplit
      have hmark : marks[k]? = some mark := by rw [List.getElem?_eq_getElem hlt, ← hsplit.1]
      have hnext := ih hsplit.2.symm hlt
      cases mark with
      | clears =>
          have hne : marks[k]? ≠ some .ends := by rw [hmark]; decide
          rw [openAt_succ hne, if_pos hmark, List.reverse_append] at hnext
          exact hnext.trans (exists_closesAt_succ_iff hlt hne _)
      | passes =>
          have hne : marks[k]? ≠ some .ends := by rw [hmark]; decide
          rw [openAt_succ hne, if_neg (by rw [hmark]; decide), List.append_nil] at hnext
          exact hnext.trans (exists_closesAt_succ_iff hlt hne _)
      | ends =>
          rw [openAt_succ_of_ends hmark] at hnext
          rw [runsFrom, List.mem_append, mem_closeRun, List.reverse_reverse]
          constructor
          · rintro (⟨rfl, hlong⟩ | hr)
            · exact ⟨k, le_rfl, hk, .inr hmark, rfl, hlong⟩
            · obtain ⟨e, hke, hclosed⟩ := hnext.1 hr
              exact ⟨e, by omega, hclosed⟩
          · rintro ⟨e, hke, he, hcloses, rfl, hlong⟩
            rcases Nat.eq_or_lt_of_le hke with rfl | hke
            · exact .inl ⟨rfl, hlong⟩
            · exact .inr (hnext.2 ⟨e, hke, he, hcloses, rfl, hlong⟩)

/-- After every line there is a place where the run that is open there becomes complete. -/
theorem exists_closesAt {i : Nat} (h : i < marks.length) :
    ∃ e, i < e ∧ e ≤ marks.length ∧ ClosesAt marks e ∧
      ∀ k, i < k → k < e → marks[k]? ≠ some .ends := by
  classical
  have hexists : ∃ e, i < e ∧ e ≤ marks.length ∧ ClosesAt marks e := ⟨_, h, le_rfl, .inl rfl⟩
  obtain ⟨hlt, hle, hcloses⟩ := Nat.find_spec hexists
  refine ⟨_, hlt, hle, hcloses, fun k hik hk hends => ?_⟩
  exact Nat.find_min hexists hk ⟨hik, hk.le.trans hle, .inr hends⟩

end Marks

/-! ### Maximal runs -/

section Lines

variable (lines : List (List Char))

def ClearsAt (i : Nat) : Prop := ∃ line, lines[i]? = some line ∧ isClearing line = true

/-- Whether a line is blank or nothing but a comment. -/
def PassesAt (i : Nat) : Prop :=
  ∃ line, lines[i]? = some line ∧ ((trim line).isEmpty = true ∨ isComment (trim line) = true)

/-- Whether all lines strictly between two others are clearing pauses, blank, or nothing but
comments. -/
def IsLinked (i j : Nat) : Prop := ∀ k, min i j < k → k < max i j → ClearsAt lines k ∨ PassesAt lines k

/-- Whether clearing pauses are linked with each other and with no further ones. -/
structure IsMaximalRun (run : Finset Nat) : Prop where
  nonempty : run.Nonempty
  clears : ∀ i ∈ run, ClearsAt lines i
  linked : ∀ i ∈ run, ∀ j ∈ run, IsLinked lines i j
  maximal : ∀ i ∈ run, ∀ j, ClearsAt lines j → IsLinked lines i j → j ∈ run

variable {lines}

theorem markOf_eq_clears {line : List Char} : markOf line = .clears ↔ isClearing line = true := by
  have htrim : isClearing (trim line) = isClearing line := by simp only [isClearing, trim_trim]
  simp only [markOf, htrim]
  split
  · next hpasses =>
    refine iff_of_false (by simp) fun hclears => ?_
    simp only [isClearing, Bool.and_eq_true, Bool.not_eq_true', Bool.or_eq_true] at hclears hpasses
    rcases hpasses with hempty | hcomment
    · exact Bool.noConfusion (hempty.symm.trans hclears.1.1.1)
    · exact Bool.noConfusion (hcomment.symm.trans hclears.1.1.2)
  · split
    · next hclears => simp [hclears]
    · next hclears => simp [hclears]

theorem markOf_eq_passes {line : List Char} :
    markOf line = .passes ↔ (trim line).isEmpty = true ∨ isComment (trim line) = true := by
  simp only [markOf, ← Bool.or_eq_true]
  split
  · next hpasses => simp [hpasses]
  · next hpasses => split <;> simp [hpasses]

theorem getElem?_eq_clears {i : Nat} : (lines.map markOf)[i]? = some .clears ↔ ClearsAt lines i := by
  simp [ClearsAt, markOf_eq_clears]

theorem getElem?_eq_passes {i : Nat} : (lines.map markOf)[i]? = some .passes ↔ PassesAt lines i := by
  simp [PassesAt, markOf_eq_passes]

theorem ClearsAt.lt_length {i : Nat} (h : ClearsAt lines i) : i < lines.length := by
  obtain ⟨line, hline, -⟩ := h
  exact (List.getElem?_eq_some_iff.1 hline).1

theorem ClearsAt.ne_ends {i : Nat} (h : ClearsAt lines i) : (lines.map markOf)[i]? ≠ some .ends := by
  rw [getElem?_eq_clears.2 h]
  decide

/-- Lines of a program are linked just when no line between them ends a run. -/
theorem isLinked_iff {i j : Nat} (hi : ClearsAt lines i) (hj : ClearsAt lines j) :
    IsLinked lines i j ↔
      ∀ k, min i j < k → k < max i j → (lines.map markOf)[k]? ≠ some .ends := by
  refine forall_congr' fun k => forall_congr' fun _ => forall_congr' fun hk => ?_
  have hlength : k < (lines.map markOf).length := by
    have := hi.lt_length
    have := hj.lt_length
    rw [List.length_map]
    omega
  rw [← getElem?_eq_clears, ← getElem?_eq_passes, List.getElem?_eq_getElem hlength]
  cases (lines.map markOf)[k] <;> decide

/-- The run that is open where it becomes complete holds just the pauses that are linked with one of
its own. -/
theorem mem_openAt_iff_isLinked {e i j : Nat} (hcloses : ClosesAt (lines.map markOf) e)
    (hi : i ∈ openAt (lines.map markOf) e) :
    j ∈ openAt (lines.map markOf) e ↔ ClearsAt lines j ∧ IsLinked lines i j := by
  obtain ⟨hilt, hiclears, hinone⟩ := mem_openAt.1 hi
  have hiclear := getElem?_eq_clears.1 hiclears
  rw [mem_openAt, getElem?_eq_clears]
  constructor
  · rintro ⟨hjlt, hjclear, hjnone⟩
    refine ⟨hjclear, (isLinked_iff hiclear hjclear).2 fun k hmin hmax => ?_⟩
    rcases Nat.lt_or_ge i k with hik | hki
    · exact hinone k hik (hmax.trans (max_lt hilt hjlt))
    · exact hjnone k (by omega) (by omega)
  · rintro ⟨hjclear, hlinked⟩
    rw [isLinked_iff hiclear hjclear] at hlinked
    -- A pause past the place would have the end of the run between itself and the other one.
    have hjlt : j < e := by
      by_contra hge
      rcases hcloses with rfl | hends
      · exact hge (by rw [List.length_map]; exact hjclear.lt_length)
      · have hne : e ≠ j := fun h => hjclear.ne_ends (h ▸ hends)
        exact hlinked e (by omega) (by omega) hends
    refine ⟨hjlt, hjclear, fun k hjk hke => ?_⟩
    rcases lt_trichotomy k i with hki | rfl | hik
    · exact hlinked k (by omega) (by omega)
    · exact hiclear.ne_ends
    · exact hinone k hik hke

/-- A maximal run holds just the pauses that are linked with one of its own. -/
theorem IsMaximalRun.mem_iff {run : Finset Nat} (h : IsMaximalRun lines run) {i j : Nat} (hi : i ∈ run) :
    j ∈ run ↔ ClearsAt lines j ∧ IsLinked lines i j :=
  ⟨fun hj => ⟨h.clears j hj, h.linked i hi j hj⟩, fun hj => h.maximal i hi j hj.1 hj.2⟩

/-- Maximal runs with a pause in common are the same. -/
theorem IsMaximalRun.eq_of_mem {run run' : Finset Nat} (h : IsMaximalRun lines run)
    (h' : IsMaximalRun lines run') {i : Nat} (hi : i ∈ run) (hi' : i ∈ run') : run = run' := by
  ext j
  rw [h.mem_iff hi, h'.mem_iff hi']

theorem isMaximalRun_openAt {e : Nat} (hcloses : ClosesAt (lines.map markOf) e)
    (hne : openAt (lines.map markOf) e ≠ []) :
    IsMaximalRun lines (openAt (lines.map markOf) e).toFinset := by
  refine ⟨List.toFinset_nonempty_iff _ |>.2 hne, fun i hi => ?_, fun i hi j hj => ?_,
    fun i hi j hj h => ?_⟩
  · exact getElem?_eq_clears.1 (mem_openAt.1 (List.mem_toFinset.1 hi)).2.1
  · rw [List.mem_toFinset] at hi hj
    exact ((mem_openAt_iff_isLinked hcloses hi).1 hj).2
  · rw [List.mem_toFinset] at hi ⊢
    exact (mem_openAt_iff_isLinked hcloses hi).2 ⟨hj, h⟩

/-- A clearing pause stands in a run that is open where it becomes complete. -/
theorem ClearsAt.exists_mem_openAt {i : Nat} (h : ClearsAt lines i) :
    ∃ e ≤ (lines.map markOf).length,
      ClosesAt (lines.map markOf) e ∧ i ∈ openAt (lines.map markOf) e := by
  have hlength : i < (lines.map markOf).length := by
    rw [List.length_map]
    exact h.lt_length
  obtain ⟨e, hie, he, hcloses, hnone⟩ := exists_closesAt hlength
  exact ⟨e, he, hcloses, mem_openAt.2 ⟨hie, getElem?_eq_clears.2 h, hnone⟩⟩

theorem IsMaximalRun.exists_openAt {run : Finset Nat} (h : IsMaximalRun lines run) :
    ∃ e ≤ (lines.map markOf).length, ClosesAt (lines.map markOf) e ∧
      run = (openAt (lines.map markOf) e).toFinset := by
  obtain ⟨i, hi⟩ := h.nonempty
  obtain ⟨e, he, hcloses, hmem⟩ := (h.clears i hi).exists_mem_openAt
  refine ⟨e, he, hcloses, ?_⟩
  ext j
  rw [h.mem_iff hi, List.mem_toFinset, mem_openAt_iff_isLinked hcloses hmem]

/-! ### The runs that are found -/

/-- Whether clearing pauses are a maximal run that is long enough. -/
structure IsRun (lines : List (List Char)) (run : Finset Nat) : Prop where
  isMaximal : IsMaximalRun lines run
  long : leastRun ≤ run.card

theorem card_toFinset_openAt {marks : List Mark} (e : Nat) :
    (openAt marks e).toFinset.card = (openAt marks e).length :=
  List.toFinset_card_of_nodup (pairwise_openAt e).nodup

/-- The runs that are found are the maximal ones, with their pauses in order. -/
theorem mem_runs {r : List Nat} : r ∈ runs lines ↔ IsRun lines r.toFinset ∧ r.Pairwise (· < ·) := by
  have hruns : r ∈ runs lines ↔ ∃ e, 0 ≤ e ∧ e ≤ (lines.map markOf).length ∧
      ClosesAt (lines.map markOf) e ∧ r = openAt (lines.map markOf) e ∧ leastRun ≤ r.length :=
    mem_runsFrom List.drop_zero (Nat.zero_le _)
  rw [hruns]
  constructor
  · rintro ⟨e, -, -, hcloses, rfl, hlong⟩
    have hne : openAt (lines.map markOf) e ≠ [] := by
      rintro hnil
      rw [hnil] at hlong
      exact absurd hlong (by decide)
    exact ⟨⟨isMaximalRun_openAt hcloses hne, (card_toFinset_openAt e).ge.trans' hlong⟩,
      pairwise_openAt e⟩
  · rintro ⟨hrun, hsorted⟩
    obtain ⟨e, he, hcloses, hopen⟩ := hrun.isMaximal.exists_openAt
    have heq : r = openAt (lines.map markOf) e := by
      refine hsorted.eq_of_mem_iff (pairwise_openAt e) fun i => ?_
      rw [← List.mem_toFinset, hopen, List.mem_toFinset]
    exact ⟨e, Nat.zero_le e, he, hcloses, heq, List.toFinset_card_of_nodup hsorted.nodup ▸ hrun.long⟩

example : runsFrom 0 [] [.clears, .passes, .clears, .ends, .clears] = [[0, 2]] := by decide

/-- Every run is found. -/
theorem IsRun.sort_mem_runs {run : Finset Nat} (h : IsRun lines run) : run.sort ∈ runs lines := by
  rw [mem_runs, Finset.sort_toFinset]
  exact ⟨h, (Finset.sortedLT_sort run).pairwise⟩

theorem mem_members {i : Nat} : i ∈ members (runs lines) ↔ ∃ run, IsRun lines run ∧ i ∈ run := by
  rw [members, List.mem_flatten]
  constructor
  · rintro ⟨r, hr, hi⟩
    exact ⟨_, (mem_runs.1 hr).1, List.mem_toFinset.2 hi⟩
  · rintro ⟨run, hrun, hi⟩
    exact ⟨_, hrun.sort_mem_runs, (Finset.mem_sort _).2 hi⟩

/-- The members of runs are the clearing pauses that are linked with others. -/
theorem mem_members_iff_isLinked {i : Nat} :
    i ∈ members (runs lines) ↔
      ClearsAt lines i ∧ ∃ j, j ≠ i ∧ ClearsAt lines j ∧ IsLinked lines i j := by
  rw [mem_members]
  constructor
  · rintro ⟨run, hrun, hi⟩
    obtain ⟨j, hj, hne⟩ := Finset.exists_mem_ne hrun.long i
    exact ⟨hrun.isMaximal.clears i hi, j, hne, (hrun.isMaximal.mem_iff hi).1 hj⟩
  · rintro ⟨hi, j, hne, hj⟩
    obtain ⟨e, -, hcloses, hmem⟩ := hi.exists_mem_openAt
    have hother := (mem_openAt_iff_isLinked hcloses hmem).2 hj
    refine ⟨_, ⟨isMaximalRun_openAt hcloses (List.ne_nil_of_mem hmem), ?_⟩, List.mem_toFinset.2 hmem⟩
    exact Finset.one_lt_card.2 ⟨j, List.mem_toFinset.2 hother, i, List.mem_toFinset.2 hmem, hne⟩

theorem mem_starts {rs : List (List Nat)} {s n : Nat} :
    (s, n) ∈ starts rs ↔ ∃ r ∈ rs, r.head? = some s ∧ r.length = n := by
  simp [starts]

/-- A start of a list of runs is the least pause of one of them. -/
theorem mem_starts_runs {s n : Nat} :
    (s, n) ∈ starts (runs lines) ↔
      ∃ run, IsRun lines run ∧ run.card = n ∧ s ∈ run ∧ ∀ i ∈ run, s ≤ i := by
  rw [mem_starts]
  constructor
  · rintro ⟨r, hr, hhead, rfl⟩
    obtain ⟨hrun, hsorted⟩ := mem_runs.1 hr
    refine ⟨_, hrun, List.toFinset_card_of_nodup hsorted.nodup, ?_, fun i hi => ?_⟩
    · exact List.mem_toFinset.2 (List.mem_of_head? hhead)
    · obtain ⟨rest, rfl⟩ := List.head?_eq_some_iff.1 hhead
      rcases List.mem_cons.1 (List.mem_toFinset.1 hi) with rfl | hi
      · exact le_rfl
      · exact (List.rel_of_pairwise_cons hsorted hi).le
  · rintro ⟨run, hrun, rfl, hs, hleast⟩
    refine ⟨_, hrun.sort_mem_runs, ?_, Finset.length_sort _⟩
    obtain ⟨first, rest, hsort⟩ := List.exists_cons_of_ne_nil
      (List.ne_nil_of_mem ((Finset.mem_sort (· ≤ ·)).2 hs))
    have hsorted := (Finset.sortedLT_sort run).pairwise
    have hfirst : first ∈ run := by
      rw [← Finset.mem_sort (· ≤ ·), hsort]
      exact List.mem_cons_self
    rw [← Finset.mem_sort (· ≤ ·), hsort] at hs
    rw [hsort] at hsorted ⊢
    rcases List.mem_cons.1 hs with rfl | hs
    · rfl
    · exact absurd (hleast first hfirst) (List.rel_of_pairwise_cons hsorted hs).not_ge

/-- The table of starts has each start with the length of its run. -/
theorem lookup_starts_runs {s n : Nat} :
    (starts (runs lines)).lookup s = some n ↔ (s, n) ∈ starts (runs lines) := by
  constructor
  · intro h
    obtain ⟨before, after, hstarts, -⟩ := List.lookup_eq_some_iff.1 h
    rw [hstarts]
    exact List.mem_append_right _ List.mem_cons_self
  · intro h
    cases hlookup : (starts (runs lines)).lookup s with
    | none =>
        have hne := List.lookup_eq_none_iff.1 hlookup _ h
        simp at hne
    | some m =>
        obtain ⟨before, after, hstarts, -⟩ := List.lookup_eq_some_iff.1 hlookup
        have hfound : (s, m) ∈ starts (runs lines) := by
          rw [hstarts]
          exact List.mem_append_right _ List.mem_cons_self
        -- Both are the length of the one run with this pause.
        obtain ⟨run, hrun, rfl, hs, -⟩ := mem_starts_runs.1 h
        obtain ⟨run', hrun', rfl, hs', -⟩ := mem_starts_runs.1 hfound
        rw [hrun.isMaximal.eq_of_mem hrun'.isMaximal hs hs']

/-! ### The sizes of runs -/

theorem members_closeRun_sublist (reversed : List Nat) :
    (members (closeRun reversed)).Sublist reversed.reverse := by
  rw [closeRun]
  split <;> simp [members]

/-- The members of runs come in order, each of them once. -/
theorem pairwise_members_runsFrom {index : Nat} {reversed : List Nat} {marks : List Mark}
    (hseen : ∀ j ∈ reversed, j < index) (hsorted : reversed.reverse.Pairwise (· < ·)) :
    (members (runsFrom index reversed marks)).Pairwise (· < ·) := by
  induction marks generalizing index reversed with
  | nil => exact hsorted.sublist (members_closeRun_sublist reversed)
  | cons mark rest ih =>
      have hnext : ∀ j ∈ reversed, j < index + 1 :=
        fun j hj => (hseen j hj).trans (Nat.lt_succ_self index)
      cases mark with
      | clears =>
          refine ih (fun j hj => ?_) ?_
          · rcases List.mem_cons.1 hj with rfl | hj
            · exact Nat.lt_succ_self _
            · exact hnext j hj
          · rw [List.reverse_cons, List.pairwise_append]
            refine ⟨hsorted, List.pairwise_singleton _ _, fun j hj k hk => ?_⟩
            rw [List.mem_singleton.1 hk]
            exact hseen j (List.mem_reverse.1 hj)
      | passes => exact ih hnext hsorted
      | ends =>
          rw [runsFrom, members, List.flatten_append, List.pairwise_append]
          refine ⟨hsorted.sublist (members_closeRun_sublist reversed), ih (by simp) List.Pairwise.nil,
            fun j hj k hk => ?_⟩
          have hlt := hseen j (mem_members_closeRun hj)
          rcases mem_members_runsFrom hk with hk | hk
          · cases hk
          · omega

theorem map_snd_starts {rs : List (List Nat)} (h : ∀ r ∈ rs, r ≠ []) :
    (starts rs).map (·.2) = rs.map List.length := by
  induction rs with
  | nil => rfl
  | cons r rs ih =>
      obtain ⟨first, rest, rfl⟩ := List.exists_cons_of_ne_nil (h r List.mem_cons_self)
      have hrec := ih fun r hr => h r (List.mem_cons_of_mem _ hr)
      rw [starts] at hrec ⊢
      simp [hrec]

theorem sum_starts_runs :
    ((starts (runs lines)).map (·.2)).sum = (members (runs lines)).toFinset.card := by
  have hnonempty : ∀ r ∈ runs lines, r ≠ [] := by
    rintro _ hr rfl
    exact absurd (mem_runs.1 hr).1.long (by decide)
  have hsorted : (members (runs lines)).Pairwise (· < ·) :=
    pairwise_members_runsFrom (by simp) List.Pairwise.nil
  rw [map_snd_starts hnonempty, List.toFinset_card_of_nodup hsorted.nodup, members, List.length_flatten]

/-! ### The first run -/

theorem run?_roleOf (rs : List (List Nat)) (i : Nat) : (roleOf rs i).run? = (starts rs).lookup i := by
  rw [roleOf]
  split
  · next hlookup => rw [hlookup, Role.run?]
  · next hlookup =>
    rw [hlookup]
    split <;> rfl

/-- The pauses that are known after some lines are those of the first run that starts there. -/
theorem dwells_stateAt {k : Nat} (hk : k ≤ lines.length) :
    (stateAt lines k).dwells = (firstRunTo lines k).bind fun s => (starts (runs lines)).lookup s := by
  induction k with
  | zero => rfl
  | succ k ih =>
      have hnext : (stateAt lines (k + 1)).dwells =
          (stateAt lines k).dwells.or (roleOf (runs lines) k).run? :=
        congrArg Header.dwells (header_stateAt_succ (List.getElem?_eq_getElem hk))
      rw [hnext, ih (Nat.le_of_succ_le hk), firstRunTo_succ, startsRunAt, run?_roleOf]
      cases hfirst : firstRunTo lines k with
      | none => cases hstarts : (starts (runs lines)).lookup k <;> simp [hstarts]
      | some s =>
          have hstarts : startsRunAt lines s = true := List.find?_some hfirst
          rw [startsRunAt, run?_roleOf] at hstarts
          obtain ⟨n, hn⟩ := Option.isSome_iff_exists.1 hstarts
          simp [hn]

/-- A line that starts a run is the least of its pauses. -/
theorem startsRunAt_iff {s : Nat} :
    startsRunAt lines s = true ↔ ∃ run, IsRun lines run ∧ s ∈ run ∧ ∀ i ∈ run, s ≤ i := by
  rw [startsRunAt, run?_roleOf, Option.isSome_iff_exists]
  simp only [lookup_starts_runs, mem_starts_runs]
  constructor
  · rintro ⟨_, run, hrun, -, hleast⟩
    exact ⟨run, hrun, hleast⟩
  · rintro ⟨run, hrun, hleast⟩
    exact ⟨_, run, hrun, rfl, hleast⟩

/-- Every run has a line that starts it. -/
theorem IsRun.exists_startsRunAt {run : Finset Nat} (h : IsRun lines run) :
    ∃ s ∈ run, startsRunAt lines s = true ∧ ∀ i ∈ run, s ≤ i := by
  obtain ⟨s, hs, hleast⟩ := run.exists_min_image id h.isMaximal.nonempty
  exact ⟨s, hs, startsRunAt_iff.2 ⟨run, h, hs, hleast⟩, hleast⟩

/-- The first run of a program starts at the least pause of all its runs. -/
theorem firstRunTo_eq_some_iff {s : Nat} :
    firstRunTo lines lines.length = some s ↔
      startsRunAt lines s = true ∧ ∀ run, IsRun lines run → ∀ i ∈ run, s ≤ i := by
  rw [firstRunTo, List.find?_range_eq_some]
  constructor
  · rintro ⟨hstarts, -, hfirst⟩
    refine ⟨hstarts, fun run hrun i hi => ?_⟩
    obtain ⟨t, -, ht, hleast⟩ := hrun.exists_startsRunAt
    by_contra hlt
    have hnot := hfirst t ((hleast i hi).trans_lt (not_le.1 hlt))
    simp [ht] at hnot
  · rintro ⟨hstarts, hleast⟩
    obtain ⟨run, hrun, hs, -⟩ := startsRunAt_iff.1 hstarts
    refine ⟨hstarts, List.mem_range.2 (hrun.isMaximal.clears s hs).lt_length, fun t ht => ?_⟩
    by_contra hstarts'
    obtain ⟨run', hrun', ht', -⟩ := startsRunAt_iff.1 (by simpa using hstarts')
    exact absurd (hleast run' hrun' t ht') ht.not_ge

/-- Without a run there is no first one. -/
theorem firstRunTo_eq_none_iff :
    firstRunTo lines lines.length = none ↔ ∀ run, ¬ IsRun lines run := by
  rw [firstRunTo, List.find?_eq_none]
  constructor
  · intro hnone run hrun
    obtain ⟨s, hs, hstarts, -⟩ := hrun.exists_startsRunAt
    exact hnone s (List.mem_range.2 (hrun.isMaximal.clears s hs).lt_length) hstarts
  · intro hnone s _ hstarts
    obtain ⟨run, hrun, -⟩ := startsRunAt_iff.1 hstarts
    exact hnone run hrun

end Lines

/-- The runs of clearing pauses are the maximal ones of two and more.  Their members are the
clearing pauses that are linked with others, each in one run; their starts are their least members,
with their sizes, which sum up to the number of members; and the pauses that a program is read to
have before its probes are those of the first run. -/
theorem runs_are_maximal (lines : List (List Char)) (text : String) :
    (∀ i, i ∈ members (runs lines) ↔
      ClearsAt lines i ∧ ∃ j, j ≠ i ∧ ClearsAt lines j ∧ IsLinked lines i j) ∧
    (∀ s n, (starts (runs lines)).lookup s = some n ↔
      ∃ run, IsRun lines run ∧ run.card = n ∧ s ∈ run ∧ ∀ i ∈ run, s ≤ i) ∧
    (∀ i, i ∈ members (runs lines) ↔ ∃! run, IsRun lines run ∧ i ∈ run) ∧
    ((starts (runs lines)).map (·.2)).sum = (members (runs lines)).toFinset.card ∧
    (∀ n, (read text).dwells = some n ↔
      ∃ run, IsRun (linesOf text) run ∧ run.card = n ∧
        ∃ s ∈ run, ∀ run', IsRun (linesOf text) run' → ∀ i ∈ run', s ≤ i) ∧
    ((read text).dwells = none ↔ ∀ run, ¬ IsRun (linesOf text) run) := by
  have hdwells : (read text).dwells = (stateAt (linesOf text) (linesOf text).length).dwells := by
    rw [read_eq]
    exact congrArg Header.dwells (header_closeProbe _)
  refine ⟨fun i => mem_members_iff_isLinked, fun s n => lookup_starts_runs.trans mem_starts_runs,
    fun i => ?_, sum_starts_runs, fun n => ?_, ?_⟩
  · rw [mem_members]
    refine ⟨?_, ExistsUnique.exists⟩
    rintro ⟨run, hrun, hi⟩
    refine ⟨run, ⟨hrun, hi⟩, ?_⟩
    rintro run' ⟨hrun', hi'⟩
    exact hrun'.isMaximal.eq_of_mem hrun.isMaximal hi' hi
  · rw [hdwells, dwells_stateAt le_rfl, Option.bind_eq_some_iff]
    simp only [firstRunTo_eq_some_iff, lookup_starts_runs, mem_starts_runs]
    constructor
    · rintro ⟨s, ⟨-, hfirst⟩, run, hrun, hcard, hs, -⟩
      exact ⟨run, hrun, hcard, s, hs, hfirst⟩
    · rintro ⟨run, hrun, hcard, s, hs, hfirst⟩
      have hleast := hfirst run hrun
      exact ⟨s, ⟨startsRunAt_iff.2 ⟨run, hrun, hs, hleast⟩, hfirst⟩, run, hrun, hcard, hs, hleast⟩
  · rw [hdwells, ← Option.isNone_iff_eq_none, isNone_dwells_stateAt le_rfl, Option.isNone_iff_eq_none,
      firstRunTo_eq_none_iff]

end TouchProbe.Program
