import TouchProbe.Proofs.Conservation

/-!
A banner of moves before a probe ends the setup of the machine.  What is noted at the banner is how
many moves are pending, and the first run of clearing pauses drops so many of the moves that are
pending then.  These are the moves before the banner as long as no probe line in between takes them;
after such a line the number stands for moves that came later.
-/

namespace TouchProbe.Program

open Text Number State

section Program

variable (lines : List (List Char))

/-- Whether a line of a program is a banner that is read while no probe is open and before the first
run. -/
def isFreeBannerAt (k : Nat) : Bool := lines[k]?.any (stateAt lines k).isFreeBanner

/-- The first such banner among the first lines of a program: it ends the setup. -/
def firstBannerTo (k : Nat) : Option Nat := (List.range k).find? (isFreeBannerAt lines)

def pendingMoves (k : Nat) : List Move :=
  (movesTo lines k).drop ((movesTo lines k).length - (stateAt lines k).pending.length)

def droppedMoves : List Move :=
  match firstRunTo lines lines.length with
  | some r => (pendingMoves lines r).take (stateAt lines r).setupMoves.length
  | none => []

def probeBetween (b r : Nat) : Bool :=
  (approachLines lines).any fun l => decide (b < l.index) && decide (l.index < r)

/-- Whether the end of the setup is stale when the first run starts: the machine was set up, moves
were pending at the banner, a probe line after it took them, and other moves are pending now. -/
def isStale : Bool :=
  match firstBannerTo lines lines.length, firstRunTo lines lines.length with
  | some b, some r =>
    (stateAt lines r).isSetUp && !(stateAt lines b).pending.isEmpty &&
      !(stateAt lines r).pending.isEmpty && probeBetween lines b r
  | _, _ => false

variable {lines}

/-! ### The number of moves before the banner -/

theorem firstBannerTo_succ (k : Nat) :
    firstBannerTo lines (k + 1) =
      (firstBannerTo lines k).or (if isFreeBannerAt lines k then some k else none) := by
  rw [firstBannerTo, firstBannerTo, List.range_succ, List.find?_append, List.find?_singleton]

/-- What is noted of the end of the setup is the number of moves that were pending at the first
banner. -/
theorem setupEnd_stateAt {k : Nat} (hk : k ≤ lines.length) :
    (stateAt lines k).setupEnd =
      (firstBannerTo lines k).map fun b => (stateAt lines b).pending.length := by
  induction k with
  | zero => rfl
  | succ k ih =>
      have hline := List.getElem?_eq_getElem (show k < lines.length from hk)
      have hbanner : isFreeBannerAt lines k = (stateAt lines k).isFreeBanner lines[k] := by
        rw [isFreeBannerAt, hline, Option.any_some]
      have hnext := congrArg Header.setupEnd (header_stateAt_succ hline)
      simp only [header] at hnext
      rw [hnext, ih (Nat.le_of_succ_le hk), firstBannerTo_succ, hbanner]
      cases firstBannerTo lines k <;> cases (stateAt lines k).isFreeBanner lines[k] <;> rfl

/-! ### Pending moves -/

/-- Some of the moves that were read are those that are pending. -/
theorem exists_pendingMoves {k : Nat} (hk : k ≤ lines.length) :
    ∃ given, movesTo lines k = given ++ pendingMoves lines k ∧
      (pendingMoves lines k).map Prod.snd = (stateAt lines k).pending := by
  obtain ⟨g, hg⟩ := exists_tells hk
  have hpending : pendingMoves lines k = g.pending := by
    rw [pendingMoves, hg.pending, List.length_map, hg.moves, List.length_append, Nat.add_sub_cancel,
      List.drop_left]
  exact ⟨g.early ++ g.dropped ++ g.late, by rw [hpending, hg.moves], by rw [hpending, hg.pending]⟩

theorem length_pendingMoves {k : Nat} (hk : k ≤ lines.length) :
    (pendingMoves lines k).length = (stateAt lines k).pending.length := by
  obtain ⟨-, -, hpending⟩ := exists_pendingMoves hk
  rw [← hpending, List.length_map]

/-- The pending moves are the last of the moves that were read, as many as are pending. -/
theorem pendingMoves_eq {k : Nat} {given moves : List Move} (hmoves : movesTo lines k = given ++ moves)
    (hlength : moves.length = (stateAt lines k).pending.length) : pendingMoves lines k = moves := by
  rw [pendingMoves, hmoves, ← hlength, List.length_append, Nat.add_sub_cancel, List.drop_left]

theorem pendingMoves_succ {k : Nat} (hk : k < lines.length)
    (hpending : (stateAt lines (k + 1)).pending =
      (stateAt lines k).pending ++ (moveAt? lines k).toList) :
    pendingMoves lines (k + 1) =
      pendingMoves lines k ++ (moveAt? lines k).toList.map fun s => (k, s) := by
  obtain ⟨given, hmoves, -⟩ := exists_pendingMoves hk.le
  have hgiven : movesTo lines (k + 1) =
      given ++ (pendingMoves lines k ++ (moveAt? lines k).toList.map fun s => (k, s)) := by
    rw [movesTo_succ, hmoves, List.append_assoc]
  apply pendingMoves_eq hgiven
  rw [hpending, List.length_append, List.length_append, length_pendingMoves hk.le, List.length_map]

theorem pendingMoves_of_nil {k : Nat} (hk : k ≤ lines.length) (h : (stateAt lines k).pending = []) :
    pendingMoves lines k = [] := by
  rw [← List.length_eq_zero_iff, length_pendingMoves hk, h, List.length_nil]

theorem lt_of_mem_pendingMoves {k : Nat} (hk : k ≤ lines.length) {m : Move}
    (h : m ∈ pendingMoves lines k) : m.1 < k := by
  obtain ⟨given, hmoves, -⟩ := exists_pendingMoves hk
  have hmem : m ∈ movesTo lines k := by
    rw [hmoves]
    exact List.mem_append_right given h
  exact (mem_movesTo.1 hmem).1

/-! ### From the banner to the first run -/

theorem mem_approachLines {l : ProbeLine} :
    l ∈ approachLines lines ↔ l.index < lines.length ∧ probeLineAt? lines l.index = some l :=
  mem_approachLinesTo

theorem probeBetween_iff {b r : Nat} (hr : r ≤ lines.length) :
    probeBetween lines b r = true ↔ ∃ i, b < i ∧ i < r ∧ (probeLineAt? lines i).isSome = true := by
  simp only [probeBetween, List.any_eq_true, Bool.and_eq_true, decide_eq_true_eq]
  constructor
  · rintro ⟨l, hl, hbl, hlr⟩
    exact ⟨l.index, hbl, hlr, Option.isSome_iff_exists.2 ⟨l, (mem_approachLines.1 hl).2⟩⟩
  · rintro ⟨i, hbi, hir, hprobe⟩
    obtain ⟨l, hl⟩ := Option.isSome_iff_exists.1 hprobe
    obtain rfl := index_of_probeLineAt? hl
    exact ⟨l, mem_approachLines.2 ⟨hir.trans_le hr, hl⟩, hbi, hir⟩

theorem probeBetween_succ {b k : Nat} (hbk : b < k) (hk : k < lines.length) :
    probeBetween lines b (k + 1) = (probeBetween lines b k || (probeLineAt? lines k).isSome) := by
  rw [Bool.eq_iff_iff, Bool.or_eq_true, probeBetween_iff hk, probeBetween_iff hk.le]
  constructor
  · rintro ⟨i, hbi, hik, hprobe⟩
    rcases Nat.lt_succ_iff_lt_or_eq.1 hik with hik | rfl
    · exact .inl ⟨i, hbi, hik, hprobe⟩
    · exact .inr hprobe
  · rintro (⟨i, hbi, hik, hprobe⟩ | hprobe)
    · exact ⟨i, hbi, hik.trans (Nat.lt_succ_self k), hprobe⟩
    · exact ⟨k, hbk, Nat.lt_succ_self k, hprobe⟩

/-- What has become of the moves that were pending at a banner: they are still pending, before those
that were read since, or a probe line took them. -/
inductive SinceBanner (lines : List (List Char)) (b k : Nat) : Prop
  | kept (current : (stateAt lines k).current = none)
      (pending : pendingMoves lines b <+: pendingMoves lines k)
      (noProbe : probeBetween lines b k = false)
  | taken (probe : probeBetween lines b k = true) (pending : ∀ m ∈ pendingMoves lines k, b < m.1)

namespace SinceBanner

variable {b k : Nat} (hbk : b < k) (hk : k < lines.length) (h : SinceBanner lines b k)

include hbk hk h

/-- A line that adds a move, or does nothing to the moves. -/
theorem grow
    (hcurrent : (stateAt lines k).current = none → (stateAt lines (k + 1)).current = none)
    (hpending : (stateAt lines (k + 1)).pending =
      (stateAt lines k).pending ++ (moveAt? lines k).toList)
    (hprobe : probeLineAt? lines k = none) : SinceBanner lines b (k + 1) := by
  have hmoves := pendingMoves_succ hk hpending
  have hbetween : probeBetween lines b (k + 1) = probeBetween lines b k := by
    rw [probeBetween_succ hbk hk, hprobe, Option.isSome_none, Bool.or_false]
  cases h with
  | kept current pending noProbe =>
      exact .kept (hcurrent current) (hmoves ▸ pending.trans (List.prefix_append _ _))
        (hbetween.trans noProbe)
  | taken probe pending =>
      refine .taken (hbetween.trans probe) fun m hm => ?_
      rw [hmoves, List.mem_append] at hm
      rcases hm with hm | hm
      · exact pending m hm
      · obtain ⟨s, -, rfl⟩ := List.mem_map.1 hm
        exact hbk

theorem step (hfirst : startsFirstAt lines k = false) : SinceBanner lines b (k + 1) := by
  have heffect := effect_stateAt hk
  rw [hfirst] at heffect
  have hnil (hpending : (stateAt lines (k + 1)).pending = []) :
      ∀ m ∈ pendingMoves lines (k + 1), b < m.1 := by
    rw [pendingMoves_of_nil hk hpending]
    exact List.forall_mem_nil _
  have hbetween := probeBetween_succ hbk hk
  generalize hmove : moveAt? lines k = move at heffect
  generalize hprobe : probeLineAt? lines k = l at heffect hbetween
  cases heffect with
  | rests probes current pending feeds =>
      -- The line may change the open probe, but there is one afterwards only if there was one.
      have hpending : (stateAt lines (k + 1)).pending =
          (stateAt lines k).pending ++ (moveAt? lines k).toList := by
        rw [pending, hmove, Option.toList_none, List.append_nil]
      refine h.grow hbk hk (fun hnone => ?_) hpending hprobe
      rw [hnone, Option.map_none, Option.map_eq_none_iff] at current
      exact current
  | adds probes current pending feeds =>
      exact h.grow hbk hk (fun hnone => current.trans hnone) (by rw [pending, hmove]; rfl) hprobe
  | opens probes current pending feeds =>
      rw [Option.isSome_some, Bool.or_true] at hbetween
      exact .taken hbetween (hnil pending)
  | closes isOpen probes current pending feeds =>
      cases h with
      | kept current pending noProbe =>
          -- Without a probe line since the banner there is no probe to close.
          rw [isOpen] at current
          cases current
      | taken probe =>
          rw [probe, Bool.true_or] at hbetween
          exact .taken hbetween (hnil pending)

end SinceBanner

/-- A banner that is read while no probe is open leaves it at that, and the pending moves too. -/
theorem readLine_of_freeBanner {st : State} {line : List Char} (h : st.isFreeBanner line = true)
    (index : Nat) (role : Role) :
    (st.readLine index role line).current = none ∧
      (st.readLine index role line).pending = st.pending := by
  simp only [isFreeBanner, Bool.and_eq_true, Option.isNone_iff_eq_none] at h
  obtain ⟨⟨hbanner, hcurrent⟩, -⟩ := h
  have hsome : st.current.isSome = false := by rw [hcurrent, Option.isSome_none]
  rw [readLine_of_not_command st index role (isCommandLine_of_banner hbanner)]
  split
  · exact ⟨hcurrent, rfl⟩
  · rw [readComment, hbanner, hsome]
    simp only [Bool.not_true, Bool.false_eq_true, if_false]
    split <;> exact ⟨hcurrent, rfl⟩

theorem isFreeBannerAt_iff {b : Nat} :
    isFreeBannerAt lines b = true ↔
      ∃ line, lines[b]? = some line ∧ (stateAt lines b).isFreeBanner line = true := by
  rw [isFreeBannerAt, Option.any_eq_true]

/-- A banner itself does nothing to the moves. -/
theorem sinceBanner_succ {b : Nat} (h : isFreeBannerAt lines b = true) :
    SinceBanner lines b (b + 1) := by
  obtain ⟨line, hline, hbanner⟩ := isFreeBannerAt_iff.1 h
  have hcommand : isCommandLine line = false := by
    simp only [isFreeBanner, Bool.and_eq_true] at hbanner
    exact isCommandLine_of_banner hbanner.1.1
  have hmove : moveAt? lines b = none := by simp [moveAt?, hline, move?, hcommand]
  obtain ⟨hcurrent, hpending⟩ := readLine_of_freeBanner hbanner b (roleOf (runs lines) b)
  rw [← stateAt_succ hline] at hcurrent hpending
  have hmoves := pendingMoves_succ (List.getElem?_eq_some_iff.1 hline).1
    (by rw [hpending, hmove, Option.toList_none, List.append_nil])
  refine .kept hcurrent (hmoves ▸ List.prefix_append _ _) ?_
  rw [Bool.eq_false_iff, ne_eq, probeBetween_iff (List.getElem?_eq_some_iff.1 hline).1]
  rintro ⟨i, hbi, hib, -⟩
  omega

/-- Nothing before the first run starts it. -/
theorem startsFirstAt_of_firstRunTo {k r : Nat} (hkr : k < r) (hr : r ≤ lines.length)
    (h : firstRunTo lines r = none) : startsFirstAt lines k = false := by
  have hstarts := List.find?_range_eq_none.1 h k hkr
  rw [startsFirstAt_eq (hkr.le.trans hr), Bool.and_eq_false_iff]
  exact .inr (by simpa using hstarts)

/-- Up to the first run moves stay pending until a probe line takes them. -/
theorem sinceBanner {b r : Nat} (hb : isFreeBannerAt lines b = true) (hbr : b < r)
    (hr : r ≤ lines.length) (hrun : firstRunTo lines r = none) : SinceBanner lines b r := by
  have hbefore {k : Nat} (hbk : b + 1 ≤ k) (hkr : k ≤ r) : SinceBanner lines b k := by
    induction k, hbk using Nat.le_induction with
    | base => exact sinceBanner_succ hb
    | succ k hbk ih =>
        exact (ih (Nat.le_of_succ_le hkr)).step hbk (hkr.trans hr)
          (startsFirstAt_of_firstRunTo hkr hr hrun)
  exact hbefore hbr le_rfl

/-! ### The first run -/

theorem firstRunTo_eq_none {r : Nat} (h : firstRunTo lines lines.length = some r) :
    firstRunTo lines r = none := by
  obtain ⟨-, -, hbefore⟩ := List.find?_range_eq_some.1 h
  exact List.find?_range_eq_none.2 hbefore

theorem lt_of_isFreeBannerAt {b r : Nat} (hr : firstRunTo lines lines.length = some r)
    (hb : isFreeBannerAt lines b = true) : b < r := by
  obtain ⟨line, hline, hbanner⟩ := isFreeBannerAt_iff.1 hb
  simp only [isFreeBanner, Bool.and_eq_true] at hbanner
  obtain ⟨hstarts, -, -⟩ := List.find?_range_eq_some.1 hr
  have hnone : firstRunTo lines b = none := by
    rw [← Option.isNone_iff_eq_none, ← isNone_dwells_stateAt (List.getElem?_eq_some_iff.1 hline).1.le]
    exact hbanner.2
  by_contra hle
  rcases Nat.lt_or_eq_of_le (Nat.le_of_not_lt hle) with hrb | rfl
  · have hbefore := List.find?_range_eq_none.1 hnone r hrb
    rw [hstarts] at hbefore
    cases hbefore
  · -- The first line of a run is a pause, and no banner.
    have hrole : roleOf (runs lines) r ≠ .free := by
      intro hfree
      rw [startsRunAt, hfree] at hstarts
      cases hstarts
    have hcommand := (isCommandLine_of_clears (clears_of_roleOf hline hrole)).1
    rw [isCommandLine_of_banner hbanner.1.1] at hcommand
    cases hcommand

/-- The first banner comes before the first run. -/
theorem firstBannerTo_of_firstRunTo {b r : Nat} (hb : firstBannerTo lines lines.length = some b)
    (hr : firstRunTo lines lines.length = some r) : b < r ∧ firstBannerTo lines r = some b := by
  obtain ⟨hbanner, -, hbefore⟩ := List.find?_range_eq_some.1 hb
  have hbr := lt_of_isFreeBannerAt hr hbanner
  exact ⟨hbr, List.find?_range_eq_some.2 ⟨hbanner, List.mem_range.2 hbr, hbefore⟩⟩

/-- The first run of a program that was set up drops as many moves as were pending at the banner. -/
theorem droppedMoves_eq {b r : Nat} (hb : firstBannerTo lines lines.length = some b)
    (hr : firstRunTo lines lines.length = some r) :
    droppedMoves lines =
      if (stateAt lines r).isSetUp then
        (pendingMoves lines r).take (stateAt lines b).pending.length
      else [] := by
  obtain ⟨-, hmem, -⟩ := List.find?_range_eq_some.1 hr
  have hrlen := (List.mem_range.1 hmem).le
  have hend := setupEnd_stateAt hrlen
  rw [(firstBannerTo_of_firstRunTo hb hr).2, Option.map_some] at hend
  simp only [droppedMoves, hr, setupMoves, hend, Option.getD_some]
  split
  · rw [List.take_eq_take_iff, List.length_take, length_pendingMoves hrlen]
    omega
  · rfl

theorem map_snd_droppedMoves : (droppedMoves lines).map Prod.snd = discarded lines := by
  rw [droppedMoves, discarded, discardedTo]
  cases hr : firstRunTo lines lines.length with
  | none => rfl
  | some r =>
      obtain ⟨-, hmem, -⟩ := List.find?_range_eq_some.1 hr
      obtain ⟨-, -, hpending⟩ := exists_pendingMoves (List.mem_range.1 hmem).le
      have hprefix : (stateAt lines r).setupMoves <+: (stateAt lines r).pending := by
        rw [setupMoves]
        split
        · exact List.take_prefix _ _
        · exact List.nil_prefix
      simp only
      rw [List.map_take, hpending]
      exact (List.prefix_iff_eq_take.1 hprefix).symm

theorem mem_moveLines_of_dropped {m : Move} (h : m ∈ droppedMoves lines) : m ∈ moveLines lines := by
  rw [droppedMoves] at h
  split at h
  · next r hr =>
    obtain ⟨-, hmem, -⟩ := List.find?_range_eq_some.1 hr
    have hrlen := List.mem_range.1 hmem
    obtain ⟨given, hmoves, -⟩ := exists_pendingMoves hrlen.le
    have hto : m ∈ movesTo lines r := by
      rw [hmoves]
      exact List.mem_append_right given (List.mem_of_mem_take h)
    obtain ⟨hlt, hmove⟩ := mem_movesTo.1 hto
    exact mem_movesTo.2 ⟨hlt.trans hrlen, hmove⟩
  · cases h

/-- The first run drops no move after the first banner, unless the end of the setup is stale. -/
theorem forall_droppedMoves_iff {b : Nat} (hb : firstBannerTo lines lines.length = some b) :
    (∀ m ∈ droppedMoves lines, ¬ b < m.1) ↔ isStale lines = false := by
  obtain ⟨hbanner, hblen, -⟩ := List.find?_range_eq_some.1 hb
  cases hr : firstRunTo lines lines.length with
  | none => simp [droppedMoves, isStale, hb, hr]
  | some r =>
      obtain ⟨hbr, -⟩ := firstBannerTo_of_firstRunTo hb hr
      obtain ⟨-, hrlen, -⟩ := List.find?_range_eq_some.1 hr
      rw [List.mem_range] at hblen hrlen
      have hpending := length_pendingMoves hblen.le
      rw [droppedMoves_eq hb hr]
      cases hset : (stateAt lines r).isSetUp with
      | false => simp [isStale, hb, hr, hset]
      | true =>
          rw [if_pos rfl]
          cases sinceBanner hbanner hbr hrlen.le (firstRunTo_eq_none hr) with
          | kept current pending noProbe =>
              -- The moves before the banner are the first of the pending ones, so just they are
              -- dropped.
              simp only [isStale, hb, hr, noProbe, Bool.and_false, iff_true]
              rw [← hpending, ← List.prefix_iff_eq_take.1 pending]
              exact fun m hm => (lt_of_mem_pendingMoves hblen.le hm).le.not_gt
          | taken probe pending =>
              -- All moves that are pending came after the probe line, so whatever is dropped is
              -- wrong.
              have hnothing : (∀ m ∈ (pendingMoves lines r).take (stateAt lines b).pending.length,
                  ¬ b < m.1) ↔
                  (pendingMoves lines r).take (stateAt lines b).pending.length = [] := by
                rw [List.eq_nil_iff_forall_not_mem]
                exact forall_congr' fun m =>
                  ⟨fun h hm => h hm (pending m (List.mem_of_mem_take hm)), fun h hm => absurd hm h⟩
              rw [hnothing, List.take_eq_nil_iff, ← List.length_eq_zero_iff,
                length_pendingMoves hrlen.le, List.length_eq_zero_iff, List.length_eq_zero_iff]
              simp [isStale, hb, hr, hset, probe, or_iff_not_imp_left]

end Program

/-- The setup of the machine ends with the banner of the moves before a probe, if and only if what
was noted at the banner is not stale: no move from a line after a banner that is read while no probe
is open and before the first run is dropped by that run, unless a probe line has taken moves that
were pending at the first such banner and others are pending when the run starts. -/
theorem keepsMovesAfterBanner_iff (text : String) :
    (∀ m ∈ droppedMoves (linesOf text), m ∈ moveLines (linesOf text)) ∧
      (droppedMoves (linesOf text)).map Prod.snd = discarded (linesOf text) ∧
      ((∀ b, isFreeBannerAt (linesOf text) b = true → ∀ m ∈ droppedMoves (linesOf text), ¬ b < m.1) ↔
        isStale (linesOf text) = false) := by
  refine ⟨fun m => mem_moveLines_of_dropped, map_snd_droppedMoves, ?_⟩
  cases hb : firstBannerTo (linesOf text) (linesOf text).length with
  | none =>
      have hfresh : isStale (linesOf text) = false := by simp [isStale, hb]
      simp only [hfresh, iff_true]
      intro b hbanner
      obtain ⟨line, hline, -⟩ := isFreeBannerAt_iff.1 hbanner
      have hnone := List.find?_range_eq_none.1 hb b (List.getElem?_eq_some_iff.1 hline).1
      rw [hbanner] at hnone
      cases hnone
  | some b =>
      obtain ⟨hbanner, -, hbefore⟩ := List.find?_range_eq_some.1 hb
      rw [← forall_droppedMoves_iff hb]
      constructor
      · exact fun h => h b hbanner
      · intro h b' hbanner' m hm hlt
        refine h m hm (lt_of_le_of_lt (Nat.le_of_not_lt fun hb' => ?_) hlt)
        have hnone := hbefore b' hb'
        rw [hbanner'] at hnone
        cases hnone

/-- A machine that is set up, with a move on each side of the banner. -/
def bannerBetweenMoves : String :=
  "S5000 M4\nG0 X1\n(Pre-moves for Probe Operation 1)\nG0 X3\nG4 P0.01\nG4 P0.01"

def probeAfterBanner : String :=
  "S5000 M4\nG0 X1\n(Pre-moves for Probe Operation 1)\nG38.2 Z-5 F10\nG0 X3\nG4 P0.01\nG4 P0.01"

/-- Of moves on the two sides of a banner the one before it is dropped. -/
theorem keepsMovesAfterBanner_between :
    (∀ b, isFreeBannerAt (linesOf bannerBetweenMoves) b = true →
      ∀ m ∈ droppedMoves (linesOf bannerBetweenMoves), ¬ b < m.1) ∧
      (droppedMoves (linesOf bannerBetweenMoves)).map Prod.fst = [1] :=
  ⟨(keepsMovesAfterBanner_iff bannerBetweenMoves).2.2.2 (by decide +kernel), by decide +kernel⟩

/-- A probe line takes the move before the banner, so the first run drops the move after the
probe. -/
theorem dropsMoveAfterBanner :
    ¬ ∀ b, isFreeBannerAt (linesOf probeAfterBanner) b = true →
      ∀ m ∈ droppedMoves (linesOf probeAfterBanner), ¬ b < m.1 := by
  have hbanner : isFreeBannerAt (linesOf probeAfterBanner) 2 = true := by decide +kernel
  have hdropped : (droppedMoves (linesOf probeAfterBanner)).map Prod.fst = [4] := by decide +kernel
  intro h
  have hmem : 4 ∈ (droppedMoves (linesOf probeAfterBanner)).map Prod.fst := by
    rw [hdropped]
    exact List.mem_singleton_self 4
  obtain ⟨m, hm, hindex⟩ := List.mem_map.1 hmem
  exact h 2 hbanner m hm (by omega)

end TouchProbe.Program
