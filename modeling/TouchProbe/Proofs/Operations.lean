import TouchProbe.Proofs.Reading

/-!
The lines of a probe operation are read as the operation.  Between two operations the state holds
the last one open, with the moves after it pending.
-/

namespace TouchProbe.Program

open Text Number

/-! ### Probe lines -/

def probeCommand (p : Probe) : String :=
  let distance := floatOf (.scalar p.distance)
  s!"G38.2 {p.axis.name}{signText (!p.isForward)}{writeFloat distance} F{writeFloat (floatOf p.feedRate)}"

def originCommand (p : Probe) : String := s!"G10 L20 P1 {p.axis.name}{writeFloat (floatOf p.offset)}"

def backoffCommand (p : Probe) : String :=
  s!"G0 G91 {p.axis.name}{writeFloat (floatOf (.scalar p.backoff))}"

/-- The lines that probe, set the work origin and retreat. -/
def probeLine (p : Probe) : Line :=
  .command (probeCommand p) s!"Probe along {p.axis.name}{signText (!p.isForward)} axis"

def originLine (p : Probe) : Line := .command (originCommand p) s!"Set WCS G54 {p.axis.name} origin"

def backoffLine (p : Probe) : Line := .command (backoffCommand p) "Back off from surface"

theorem probeLines_eq {p : Probe} (h : IsPlainProbe p) :
    probeLines p = .ok [probeLine p, originLine p, backoffLine p, .blank] := by
  rw [probeLines, writeNumber_eq h.distance, writeNumber_eq h.feedRate, writeNumber_eq h.offset,
    writeNumber_eq h.backoff, probeLine, probeCommand]
  cases p.isForward <;> rfl

/-- The lines of a probe have no line end within. -/
theorem newline_not_mem_comment (a : Axis) (negative : Bool) :
    '\n' ∉ s!"Probe along {a.name}{signText negative} axis".toList ∧
      '\n' ∉ s!"Set WCS G54 {a.name} origin".toList := by
  cases a <;> cases negative <;> decide

theorem isCode_probeCommand (p : Probe) : IsCode (probeCommand p)
    (probeCode p.axis (!p.isForward) (floatOf (.scalar p.distance)) (floatOf p.feedRate)) :=
  isCode_of_spell (toList_probe p.axis (!p.isForward) _ _) (List.cons_ne_nil _ _)
    (isWritten_probeWords p.axis (!p.isForward) _ _)

theorem isCode_originCommand (p : Probe) :
    IsCode (originCommand p) (originCode p.axis (floatOf p.offset)) :=
  isCode_of_spell (toList_origin p.axis _) (List.cons_ne_nil _ _) (isWritten_originWords p.axis _)

theorem isCode_backoffCommand (p : Probe) : IsCode (backoffCommand p)
    (rapidCode .relative .none [(p.axis, floatOf (.scalar p.backoff))]) :=
  isCode_of_spell (toList_backoff p.axis _) (List.cons_ne_nil _ _)
    (isWritten_rapidWords .relative .none _)

/-! ### The state while a probe is read -/

/-- The open probe after the line that probes. -/
def approach (p : Probe) (line : Nat) (preMoves : List Step) : OpenProbe where
  axis := p.axis
  forward := readsForward p
  distance := settled (floatOf (.scalar p.distance))
  feedRate := settled (floatOf p.feedRate)
  line
  preMoves

/-- The open probe after all its lines. -/
def opened (p : Probe) (line : Nat) : OpenProbe :=
  { approach p line (p.preMoves.map rereadStep) with
    backoff := some (settled (floatOf (.scalar p.backoff)))
    offset := some (settled (floatOf p.offset)).abs }

theorem abs_settled {x : Float} (h : isPlain x = true) (hx : zero ≤ x) :
    (settled x).abs = settled x := by
  obtain ⟨negative, m, e, hparts, -, -⟩ := exists_parts_of_isPlain h
  have hcase := (zero_le_iff hparts).1 hx
  apply parts_injective
  cases hz : isZero x with
  | true =>
      rw [settled, hz, if_pos rfl, parts_abs parts_zero, parts_zero]
  | false =>
      have hm : m ≠ 0 := by
        rintro rfl
        simp [isZero, hparts] at hz
      have hsign : negative = false := hcase.resolve_right hm
      rw [settled, hz, if_neg Bool.false_ne_true, parts_abs hparts, hparts, hsign]

section Probe

variable {p : Probe} (h : IsPlainProbe p)

include h

theorem readCommand_probe {st : State} (hset : st.isSetUp = true) (hcurrent : st.current = none)
    (line : Nat) (text : List Char) :
    st.readCommand line text (probeCode p.axis (!p.isForward) (floatOf (.scalar p.distance))
        (floatOf p.feedRate)) =
      { st with pending := [], current := some (approach p line st.pending) } := by
  obtain ⟨value, hentries, habs, hneg⟩ :=
    axes_probeCode p.axis (!p.isForward) h.distance.plain h.feedRate.plain h.distance_nonneg
  obtain ⟨hfeed, hfeed0⟩ := isPlain_pos_settled h.feedRate.plain h.feedRate_pos
  have hz : isZero (floatOf p.feedRate) = false := by
    rw [← Bool.not_eq_true]
    intro hz
    obtain ⟨negative, hparts⟩ := isZero_iff.1 hz
    exact absurd rfl ((zero_lt_iff hparts).1 h.feedRate_pos).2
  have hread : State.probeFeed? (probeCode p.axis (!p.isForward) (floatOf (.scalar p.distance))
      (floatOf p.feedRate)) = some (settled (floatOf p.feedRate)) := by
    rw [State.probeFeed?, feed?_probeCode p.axis _ h.distance.plain h.feedRate.plain hfeed0, hfeed,
      Option.filter_some, hz]
    rfl
  have hforward : (!decide (value < zero)) = readsForward p := by
    rw [readsForward, Bool.eq_iff_iff]
    simp only [Bool.not_eq_true', decide_eq_false_iff_not, hneg, Bool.or_eq_true]
    cases p.isForward <;> cases isZero (floatOf (.scalar p.distance)) <;> simp
  have hprobe : st.readProbe line text (probeCode p.axis (!p.isForward)
      (floatOf (.scalar p.distance)) (floatOf p.feedRate)) =
      { st with pending := [], current := some (approach p line st.pending) } := by
    rw [State.readProbe, hentries]
    simp only [hread, State.closeProbe, hcurrent, habs, approach, ← hforward]
    rfl
  rw [State.readCommand, classify_probeCode]
  simp only [hprobe, hset, Bool.true_or]

theorem readCommand_origin {st : State} (hset : st.isSetUp = true) {q : OpenProbe}
    (hcurrent : st.current = some q) (haxis : q.axis = p.axis) (line : Nat) (text : List Char) :
    st.readCommand line text (originCode p.axis (floatOf p.offset)) =
      { st with
        current := some { q with offset := some (settled (floatOf p.offset)).abs }
        awaitsBackoff := true } := by
  have hvalue : (axes (originCode p.axis (floatOf p.offset))).get? q.axis =
      some (settled (floatOf p.offset)) := by
    rw [ByAxis.get?, axes_originCode p.axis h.offset.plain, haxis, List.lookup_cons_self]
  rw [State.readCommand, classify_originCode]
  simp only [State.readOrigin, hcurrent, hvalue, hset, Bool.true_or]

theorem readCommand_backoff {st : State} (hset : st.isSetUp = true) {q : OpenProbe}
    (hcurrent : st.current = some q) (haxis : q.axis = p.axis) (hawaits : st.awaitsBackoff = true)
    (hdwells : st.dwells.isNone = false) (line : Nat) (text : List Char) :
    st.readCommand line text (rapidCode .relative .none [(p.axis, floatOf (.scalar p.backoff))]) =
      { st with
        current := some { q with backoff := some (settled (floatOf (.scalar p.backoff))) }
        awaitsBackoff := false } := by
  have hentries : (axes (rapidCode .relative .none [(p.axis, floatOf (.scalar p.backoff))])).entries =
      [(p.axis, settled (floatOf (.scalar p.backoff)))] := by
    rw [axes_rapidCode]
    · rfl
    · simpa using h.backoff.plain
    · simp
  have hG91 : hasWord "G91".toList
      (rapidCode .relative .none [(p.axis, floatOf (.scalar p.backoff))]) = true := by
    rw [show "G91".toList = 'G' :: "91".toList from rfl, hasG_rapidCode _ _ _ _ (by decide)]
    rfl
  have hbackoff : st.backoff? (rapidCode .relative .none [(p.axis, floatOf (.scalar p.backoff))]) =
      some (q, settled (floatOf (.scalar p.backoff))) := by
    rw [State.backoff?, hcurrent, hentries]
    simp only [hawaits, hG91, haxis, Bool.and_self, decide_true, if_true,
      abs_settled h.backoff.plain h.backoff_nonneg]
  have hstart : st.isStart (rapidCode .relative .none [(p.axis, floatOf (.scalar p.backoff))]) =
      false := by
    rw [State.isStart, hdwells, Bool.false_and, Bool.false_and, Bool.false_and]
  have hempty : (axes (rapidCode .relative .none
      [(p.axis, floatOf (.scalar p.backoff))])).isEmpty = false := by
    rw [ByAxis.isEmpty, hentries]
    rfl
  rw [State.readCommand, classify_rapidCode _ _ (List.cons_ne_nil _ _)]
  simp only [State.readRapid, hempty, hstart, hbackoff, hset, Bool.true_or, Bool.false_eq_true,
    if_false]

theorem leads_originLine {st : State} (hset : st.isSetUp = true) {q : OpenProbe}
    (hcurrent : st.current = some q) (haxis : q.axis = p.axis) (index : Nat) :
    Leads index st [(originLine p).body]
      { st with
        current := some { q with offset := some (settled (floatOf p.offset)).abs }
        awaitsBackoff := true } := by
  have hlead := leads_command (d := s!"Set WCS G54 {p.axis.name} origin") (isCode_originCommand p)
    (by rw [classify_originCode]; rfl) index st
  rw [readCommand_origin h hset hcurrent haxis] at hlead
  exact hlead

theorem leads_backoffLine {st : State} (hset : st.isSetUp = true) {q : OpenProbe}
    (hcurrent : st.current = some q) (haxis : q.axis = p.axis) (hawaits : st.awaitsBackoff = true)
    (hdwells : st.dwells.isNone = false) (index : Nat) :
    Leads index st [(backoffLine p).body]
      { st with
        current := some { q with backoff := some (settled (floatOf (.scalar p.backoff))) }
        awaitsBackoff := false } := by
  have hlead := leads_command (d := "Back off from surface") (isCode_backoffCommand p)
    (by rw [classify_rapidCode _ _ (List.cons_ne_nil _ _)]; rfl) index st
  rw [readCommand_backoff h hset hcurrent haxis hawaits hdwells] at hlead
  exact hlead

end Probe

/-! ### One operation -/

/-- The state before a probe: some probes are done, and the moves before the next are pending. -/
def State.waiting (st : State) (dwells : Nat) (setupEnd : Option Nat) (done : List Probe)
    (preMoves : List Step) : State :=
  { st with
    probes := done.map rereadProbe
    current := none
    pending := preMoves.map rereadStep
    dwells := some dwells
    setupEnd
    awaitsBackoff := false }

/-- The state after an operation: its probe is open, and the moves after it are pending. -/
def State.probing (st : State) (dwells : Nat) (setupEnd : Option Nat) (done : List Probe)
    (last : Probe) (line : Nat) : State :=
  { st with
    probes := done.map rereadProbe
    current := some (opened last line)
    pending := last.postMoves.map rereadStep
    dwells := some dwells
    setupEnd
    awaitsBackoff := false }

theorem pend_probing (st : State) (dwells : Nat) (setupEnd : Option Nat) (done : List Probe)
    (last : Probe) (line : Nat) :
    State.pend { st.probing dwells setupEnd done last line with pending := [] } last.postMoves =
      st.probing dwells setupEnd done last line := rfl

theorem markOf_clearingLine : markOf clearingLine.body = .clears := by decide +kernel

theorem isCommand_clearing : IsCommand "G4 P0.01".toList :=
  ⟨by decide, by decide, by decide, by decide⟩

theorem newline_not_mem_probeLines (p : Probe) :
    ∀ l ∈ [probeLine p, originLine p, backoffLine p, .blank], '\n' ∉ l.body := by
  obtain ⟨hprobe, horigin⟩ := newline_not_mem_comment p.axis (!p.isForward)
  simp only [List.forall_mem_cons]
  refine ⟨?_, ?_, ?_, List.not_mem_nil, by simp⟩
  · exact newline_not_mem_command (isCode_probeCommand p) hprobe
  · exact newline_not_mem_command (isCode_originCommand p) horigin
  · exact newline_not_mem_command (isCode_backoffCommand p) (by decide)

theorem leads_probeLines {p : Probe} (h : IsPlainProbe p) {count : Nat} {st st' : State}
    {dwells : Nat} {setupEnd : Option Nat} {done : List Probe} (hcount : leastRun ≤ count)
    (hset : st'.isSetUp = true)
    (henter : st.enterRun count = st'.waiting dwells setupEnd done p.preMoves) :
    ∀ index, ∃ line, Leads index st
      (List.replicate count clearingLine.body ++
        [[], (probeLine p).body, (originLine p).body, (backoffLine p).body, []])
      { st'.probing dwells setupEnd done p line with pending := [] } := by
  intro index
  have hready : (st'.waiting dwells setupEnd done p.preMoves).isSetUp = true := hset
  have hrun : Leads index st
      (List.replicate count clearingLine.body ++ [[], (probeLine p).body]) _ :=
    Leads.run markOf_clearingLine hcount (readLine_pad_starts isCommand_clearing)
      (readLine_pad_member isCommand_clearing)
      (markOf_command (isCode_probeCommand p) (by rw [classify_probeCode]; rfl))
  rw [probeLine, readLine_command (isCode_probeCommand p), henter,
    readCommand_probe h hready rfl] at hrun
  have horigin := hrun.append (leads_originLine h (by exact hready) rfl rfl _)
  have hbackoff := horigin.append
    (leads_backoffLine h (by exact hready) rfl rfl rfl rfl _)
  have hblank := hbackoff.append (Leads.blank _ _)
  rw [List.append_assoc, List.append_assoc, List.append_assoc] at hblank
  exact ⟨index + count + 1 + 1, hblank⟩

/-- The lines of an operation are read as the operation, wherever the moves before it are
collected and the run of pauses leaves nothing else pending. -/
theorem leads_operation {p : Probe} (h : IsPlainProbe p) {dwells : Datum} {count : Nat}
    (hdwells : pauseCount dwells = .ok count) (hcount : leastRun ≤ count) (number : Nat) :
    ∃ ls : List Line, operationLines dwells number p = .ok ls ∧ (∀ l ∈ ls, '\n' ∉ l.body) ∧
      ∀ index st st' setupEnd done, State.Collects st.atBanner → st'.isSetUp = true →
        (st.afterPreMoves p.preMoves).enterRun count =
          State.waiting st' count setupEnd done p.preMoves →
        ∃ line, Leads index st (ls.map Line.body) (st'.probing count setupEnd done p line) := by
  obtain ⟨hhead, hne⟩ := headBanner_lines number p.axis
  obtain ⟨pre, hpre, hprelines, hpreleads⟩ := leads_preMoves h.preMoves number
  obtain ⟨post, hpost, hpostlines, hpostleads⟩ := leads_postMoves h.postMoves number
  refine ⟨.banner (headBanner number p.axis) :: pre ++ List.replicate count clearingLine ++
    .blank :: [probeLine p, originLine p, backoffLine p, .blank] ++ post ++ [.blank], ?_, ?_, ?_⟩
  · rw [operationLines]
    change (do let preMoves ← movesLines p.preMoves (preBanner number); _) = _
    rw [hpre, hdwells, probeLines_eq h]
    change (do let postMoves ← movesLines p.postMoves (postBanner number); _) = _
    rw [hpost, ← headBanner_eq]
    rfl
  · simp only [List.forall_mem_append, List.forall_mem_cons]
    refine ⟨⟨⟨⟨⟨newline_not_mem_parenthesised hhead, hprelines⟩, ?_⟩, List.not_mem_nil, ?_⟩,
      hpostlines⟩, List.not_mem_nil, by simp⟩
    · intro l hl
      rw [List.eq_of_mem_replicate hl]
      exact newline_not_mem_pad isCommand_clearing (by decide)
    · simpa only [List.forall_mem_cons] using newline_not_mem_probeLines p
  · intro index st st' setupEnd done hcollects hset henter
    have hbanner := leads_banner hne (isPreMovesBanner_headBanner number p.axis) index st
    have hmoves := hbanner.append (hpreleads _ st hcollects)
    obtain ⟨line, hprobe⟩ := leads_probeLines h hcount hset henter (index +
      ([(Line.banner (headBanner number p.axis)).body] ++ pre.map Line.body).length)
    have hpost := (hmoves.append hprobe).append (hpostleads _ _ ⟨hset, rfl, rfl⟩)
    have hblank := hpost.append (Leads.blank _ _)
    refine ⟨line, ?_⟩
    rw [pend_probing] at hblank
    simpa using hblank

/-! ### Operations one after another -/

/-- Whether a state is that of a machine that has been set up and has not been used yet. -/
structure State.IsFresh (st : State) : Prop where
  isSetUp : st.isSetUp = true
  noBackoff : st.awaitsBackoff = false
  noCurrent : st.current = none
  noDwells : st.dwells = none
  noSetupEnd : st.setupEnd = none
  noProbes : st.probes = []

/-- Whether a state is what a fresh state becomes with some operations: the last one is open. -/
def State.Became (st : State) (dwells : Nat) (done : List Probe) (st' : State) : Prop :=
  (done = [] ∧ st' = st) ∨
    ∃ setupEnd before last line,
      done = before ++ [last] ∧ st' = st.probing dwells setupEnd before last line

section Became

variable {st st' : State} {dwells : Nat} {done : List Probe} (hst : st.IsFresh)
  (h : st.Became dwells done st')

include hst h

theorem collects_of_became : st'.atBanner.Collects := by
  obtain ⟨hset, hno, hcurrent, hdwells, hsetup, -⟩ := hst
  rcases h with ⟨-, rfl⟩ | ⟨setupEnd, before, last, line, -, rfl⟩
  · have hbanner : st'.atBanner = { st' with setupEnd := some st'.pending.length } := by
      simp [State.atBanner, hcurrent, hdwells, hsetup]
    rw [hbanner]
    exact ⟨hset, hno, by simp⟩
  · exact ⟨hset, rfl, rfl⟩

/-- The run of pauses of the next operation closes the open probe and leaves the moves before the
next one pending; the first run drops what was pending in the head. -/
theorem enterRun_of_became (preMoves : List Step) : ∃ setupEnd,
    (st'.afterPreMoves preMoves).enterRun dwells = st.waiting dwells setupEnd done preMoves := by
  obtain ⟨hset, hno, hcurrent, hdwells, hsetup, hprobes⟩ := hst
  rcases h with ⟨rfl, rfl⟩ | ⟨setupEnd, before, last, line, rfl, rfl⟩
  · cases preMoves with
    | nil =>
        refine ⟨none, ?_⟩
        simp [State.afterPreMoves, State.enterRun, State.waiting, hdwells, hset, hsetup, hno,
          hcurrent, hprobes]
    | cons s preMoves =>
        refine ⟨some st'.pending.length, ?_⟩
        simp [State.afterPreMoves, State.atBanner, State.pend, State.enterRun, State.waiting, hdwells,
          hset, hsetup, hno, hcurrent, hprobes]
  · refine ⟨setupEnd, ?_⟩
    have hclose : (opened last line).close (last.postMoves.map rereadStep) = rereadProbe last := rfl
    cases preMoves with
    | nil =>
        simp [State.afterPreMoves, State.enterRun, State.closeProbe, State.probing, State.waiting,
          opened, ← hclose]
    | cons s preMoves =>
        simp [State.afterPreMoves, State.atBanner, State.pend, State.enterRun, State.closeProbe,
          State.probing, State.waiting, opened, ← hclose]

/-- The operations that were read are those that were written. -/
theorem closeProbe_of_became : st'.closeProbe.probes = done.map rereadProbe := by
  rcases h with ⟨rfl, rfl⟩ | ⟨setupEnd, before, last, line, rfl, rfl⟩
  · simp [State.closeProbe, hst.noCurrent, hst.noProbes]
  · have hclose : (opened last line).close (last.postMoves.map rereadStep) = rereadProbe last := rfl
    simp [State.closeProbe, State.probing, ← hclose]

end Became

/-- The lines of operations are read as these operations. -/
theorem leads_operations {ops : List Probe} (h : ∀ p ∈ ops, IsPlainProbe p) {dwells : Datum}
    {count : Nat} (hdwells : pauseCount dwells = .ok count) (hcount : leastRun ≤ count)
    (number : Nat) :
    ∃ lss : List (List Line),
      ((ops.zipIdx number).mapM fun p => operationLines dwells (p.2 + 1) p.1) = .ok lss ∧
      (∀ l ∈ lss.flatten, '\n' ∉ l.body) ∧
      ∀ index st done st', State.IsFresh st → st.Became count done st' →
        ∃ st'', Leads index st' (lss.flatten.map Line.body) st'' ∧
          st.Became count (done ++ ops) st'' := by
  induction ops generalizing number with
  | nil =>
      refine ⟨[], rfl, by simp, fun index st done st' hst hdone => ⟨st', Leads.nil _ _, ?_⟩⟩
      rwa [List.append_nil]
  | cons p ops ih =>
      obtain ⟨ls, hls, hlines, hleads⟩ :=
        leads_operation (h p List.mem_cons_self) hdwells hcount (number + 1)
      obtain ⟨lss, hlss, hrest, hleadss⟩ := ih (fun q hq => h q (List.mem_cons_of_mem p hq)) (number + 1)
      refine ⟨ls :: lss, ?_, ?_, fun index st done st' hst hdone => ?_⟩
      · rw [List.zipIdx_cons, List.mapM_cons, hls, hlss]
        rfl
      · rw [List.flatten_cons, List.forall_mem_append]
        exact ⟨hlines, hrest⟩
      · obtain ⟨setupEnd, henter⟩ := enterRun_of_became hst hdone p.preMoves
        obtain ⟨line, hlead⟩ := hleads index st' st setupEnd done (collects_of_became hst hdone)
          hst.isSetUp henter
        obtain ⟨st'', hlead', hbecame⟩ := hleadss (index + (ls.map Line.body).length) st (done ++ [p])
          (st.probing count setupEnd done p line) hst (.inr ⟨setupEnd, done, p, line, rfl, rfl⟩)
        refine ⟨st'', ?_, ?_⟩
        · rw [List.flatten_cons, List.map_append]
          exact hlead.append hlead'
        · rwa [List.append_assoc, List.singleton_append] at hbecame

end TouchProbe.Program
