import TouchProbe.Proofs.Operations

/-!
What is read from a whole program: its head, its operations and its foot.
-/

namespace TouchProbe.Program

open Text Number

/-! ### The head -/

/-- Whether the numbers of the head are floats or stand for floats. -/
structure HasFloats (settings : Settings) : Prop where
  start (a : Axis) : (settings.start.get a).toFloat = .ok (floatOf (settings.start.get a))
  spindle : settings.spindle.toFloat = .ok (floatOf settings.spindle)

def startCommand (a : Axis) (x : Float) : String := s!"G90 G53 G0 {a.name}{writeFloat x}"

def spindleCommand (x : Float) : String := s!"S{writeFloat x} M4"

theorem isCode_startCommand (a : Axis) (x : Float) : IsCode (startCommand a x) (startCode a x) :=
  isCode_of_spell (toList_start a x) (List.cons_ne_nil _ _) (isWritten_startWords a x)

theorem isCode_spindleCommand (x : Float) : IsCode (spindleCommand x) (spindleCode x) :=
  isCode_of_spell (toList_spindle x) (List.cons_ne_nil _ _) (isWritten_spindleWords x)

def writtenStart (settings : Settings) (a : Axis) : Line :=
  .command (startCommand a (floatOf (settings.start.get a)))
    s!"Absolute move in machine coordinates to {a.name}"

def writtenSpindle (settings : Settings) : Line :=
  .command (spindleCommand (floatOf settings.spindle))
    s!"Start spindle in reverse at {writeFloat (floatOf settings.spindle)} RPM"

/-- The pause while the spindle gets up to speed. -/
def spinUpLine : Line := .command "G4 P3" "Dwell for 3 seconds to let spindle stabilize"

def incrementalLine : Line := .command "G91" "Set to incremental positioning mode"

def writtenHead (settings : Settings) : List Line :=
  unitsLine settings.units :: startOrder.map (writtenStart settings) ++
    [.blank, writtenSpindle settings, spinUpLine, .blank, incrementalLine, .blank]

theorem headLines_eq {settings : Settings} (h : HasFloats settings) :
    headLines settings = .ok (writtenHead settings) := by
  have hstart : ∀ a ∈ startOrder, startLine settings.start a = .ok (writtenStart settings a) := by
    intro a _
    rw [startLine, writeNumber_of_float (h.start a)]
    rfl
  rw [headLines, mapM_eq_ok hstart, writeNumber_of_float h.spindle]
  rfl

/-- The commands that are the same in every program. -/
def fixedCommands : List String := ["G20", "G21", "G4 P3", "G91", "G0 G54 G90 X0Y0", "S0"]

theorem isCode_fixed {c : String} (h : c ∈ fixedCommands) : IsCode c c.toList := by
  have hall : ∀ c ∈ fixedCommands, c.toList ≠ [] ∧ trim c.toList = c.toList ∧ '(' ∉ c.toList ∧
      '\n' ∉ c.toList ∧ upper c.toList = c.toList := by
    decide +kernel
  obtain ⟨hne, htrim, hopening, hline, hupper⟩ := hall c h
  exact ⟨⟨hne, htrim, hopening, hline⟩, hupper, hne⟩

theorem newline_not_mem_writtenHead (settings : Settings) :
    ∀ l ∈ writtenHead settings, '\n' ∉ l.body := by
  have hfixed {c : String} (h : c ∈ fixedCommands) {d : String} (hd : '\n' ∉ d.toList) :
      '\n' ∉ (Line.command c d).body := newline_not_mem_command (isCode_fixed h) hd
  have hfloat : '\n' ∉ (writeFloat (floatOf settings.spindle)).toList := fun h =>
    absurd (writeFloat_subset _ h) (by decide)
  have hunits : '\n' ∉ (unitsLine settings.units).body := by
    cases settings.units
    · exact hfixed (by decide) (by decide)
    · exact hfixed (by decide) (by decide)
  have hstart : ∀ l ∈ startOrder.map (writtenStart settings), '\n' ∉ l.body := by
    intro l hl
    obtain ⟨a, -, rfl⟩ := List.mem_map.1 hl
    refine newline_not_mem_command (isCode_startCommand a _) ?_
    cases a <;> decide
  rw [writtenHead]
  simp only [List.cons_append, List.forall_mem_cons, List.forall_mem_append]
  refine ⟨hunits, hstart, List.not_mem_nil, ?_, hfixed (by decide) (by decide), List.not_mem_nil,
    hfixed (by decide) (by decide), List.not_mem_nil, by simp⟩
  refine newline_not_mem_command (isCode_spindleCommand _) ?_
  simp [hfloat]

/-! ### What the head is read as -/

theorem leads_unitsLine (units : Units) (index : Nat) :
    Leads index {} [(unitsLine units).body] { units := some units } := by
  cases units
  · exact leads_command (d := "Set units to millimeters") (isCode_fixed (c := "G21") (by decide))
      (by decide +kernel) index {}
  · exact leads_command (d := "Set units to inches") (isCode_fixed (c := "G20") (by decide))
      (by decide +kernel) index {}

theorem leads_startLine (settings : Settings) (a : Axis) {st : State} (hdwells : st.dwells = none)
    (hsetup : st.setupEnd = none) (index : Nat) :
    Leads index st [(writtenStart settings a).body]
      { st with
        start := st.start.fill (axes (startCode a (floatOf (settings.start.get a)))).entries
        isSetUp := true } := by
  generalize hx : floatOf (settings.start.get a) = x
  obtain ⟨hG90, hG53⟩ := hasWord_startCode a x
  have hstart : st.isStart (startCode a x) = true := by
    rw [State.isStart, hdwells, hsetup, hG90, hG53]
    rfl
  have hrapid : st.readRapid (trim (pad commentColumn (startCommand a x).toList
      s!"Absolute move in machine coordinates to {a.name}".toList)) (startCode a x) =
      { st with start := st.start.fill (axes (startCode a x)).entries } := by
    rw [State.readRapid, hstart]
    split
    next h =>
      rw [ByAxis.isEmpty, List.isEmpty_iff] at h
      rw [h]
      rfl
    next h => rfl
  have hsetUp : isSetup (startCode a x) = true := by rw [isSetup, hG53, Bool.true_or]
  have hlead := leads_command (d := s!"Absolute move in machine coordinates to {a.name}")
    (isCode_startCommand a x) (by rw [classify_startCode]; rfl) index st
  rw [State.readCommand, classify_startCode] at hlead
  simp only [hrapid, hsetUp, Bool.or_true] at hlead
  rw [writtenStart, hx]
  exact hlead

theorem readSpindle_eq (st : State) (line : Nat) (text code : List Char) :
    ∃ speed problems,
      st.readSpindle line text code = { st with spindle := speed, problems := problems } := by
  rw [State.readSpindle]
  split
  · split
    · exact ⟨_, _, rfl⟩
    · exact ⟨_, _, rfl⟩
  · exact ⟨_, _, rfl⟩

/-- The line that starts the spindle only notes its speed, or that the speed is beyond all
floats. -/
theorem leads_spindleLine (settings : Settings) (st : State) (index : Nat) :
    ∃ speed problems, Leads index st [(writtenSpindle settings).body]
      { st with spindle := speed, problems := problems, isSetUp := true } := by
  generalize hx : floatOf settings.spindle = x
  have hlead := leads_command (d := s!"Start spindle in reverse at {writeFloat x} RPM")
    (isCode_spindleCommand x) (by rw [classify_spindleCode]; split <;> rfl) index st
  rw [State.readCommand, classify_spindleCode] at hlead
  rw [writtenSpindle, hx]
  cases hspeed : (numberWord 'S' x).raised.isSpeed with
  | true =>
      obtain ⟨speed, problems, hread⟩ := readSpindle_eq st (index + 1) (trim (pad commentColumn
        (spindleCommand x).toList s!"Start spindle in reverse at {writeFloat x} RPM".toList))
        (spindleCode x)
      simp only [hspeed, if_true, hread, isSetup_spindleCode, Bool.or_true] at hlead
      exact ⟨speed, problems, hlead⟩
  | false =>
      simp only [hspeed, Bool.false_eq_true, if_false, isSetup_spindleCode, Bool.or_true] at hlead
      exact ⟨st.spindle, st.problems, hlead⟩

/-- The settings that the head of a program shows in full. -/
structure IsPlainHead (settings : Settings) : Prop where
  start (a : Axis) : IsPlainNumber (settings.start.get a)
  spindle : IsPlainNumber settings.spindle
  spindle_whole : isWhole (floatOf settings.spindle) = true
  spindle_nonneg : zero ≤ floatOf settings.spindle

theorem IsPlainHead.hasFloats {settings : Settings} (h : IsPlainHead settings) :
    HasFloats settings :=
  ⟨fun a => (h.start a).float, h.spindle.float⟩

theorem leads_plainSpindleLine {settings : Settings} (h : IsPlainHead settings) {st : State}
    (hst : st.spindle = none) (index : Nat) :
    Leads index st [(writtenSpindle settings).body]
      { st with spindle := truncate? (settled (floatOf settings.spindle)), isSetUp := true } := by
  obtain ⟨hclass, hspeed⟩ :=
    speed?_spindleCode h.spindle.plain h.spindle_whole h.spindle_nonneg
  have hplain := h.spindle.plain
  generalize hx : floatOf settings.spindle = x at hclass hspeed hplain
  obtain ⟨k, hk⟩ : ∃ k, truncate? (settled x) = some k := by
    obtain ⟨negative, m, e, hparts, -, -⟩ := exists_parts_of_isPlain hplain
    rw [settled]
    split
    · exact ⟨_, by rw [truncate?, parts_zero]⟩
    · exact ⟨_, by rw [truncate?, hparts]⟩
  have hlead := leads_command (d := s!"Start spindle in reverse at {writeFloat x} RPM")
    (isCode_spindleCommand x) (by rw [hclass]; rfl) index st
  rw [State.readCommand, hclass] at hlead
  simp only [State.readSpindle, hst, hspeed, hk, isSetup_spindleCode, Bool.or_true] at hlead
  rw [writtenSpindle, hx, hk]
  exact hlead

theorem leads_spinUpLine (st : State) (hset : st.isSetUp = true) (index : Nat) :
    ∃ pending, Leads index st [spinUpLine.body] { st with pending := pending, isSetUp := true } := by
  have hlead := leads_command (d := "Dwell for 3 seconds to let spindle stabilize")
    (isCode_fixed (c := "G4 P3") (by decide)) (by decide +kernel) index st
  have hclass : classify "G4 P3".toList = .dwell := by decide +kernel
  rw [State.readCommand, hclass] at hlead
  simp only [State.readDwell] at hlead
  split at hlead
  · simp only [hset, Bool.true_or] at hlead
    exact ⟨_, hlead⟩
  · simp only [hset, Bool.true_or] at hlead
    exact ⟨_, hlead⟩

/-- A command that nothing is read from leaves the machine as it is, once it is set up. -/
theorem leads_idle {c d : String} (hc : c ∈ fixedCommands)
    (hkind : classify c.toList = .other ∨ classify c.toList = .goHome) (st : State)
    (hset : st.isSetUp = true) (index : Nat) : Leads index st [(Line.command c d).body] st := by
  have hnot : (classify c.toList == .dwell) = false := by
    rcases hkind with h | h <;> rw [h] <;> rfl
  have hlead := leads_command (d := d) (isCode_fixed hc) (by rw [hnot, Bool.false_and]) index st
  have hst : { st with isSetUp := true } = st := by rw [← hset]
  rcases hkind with h | h <;>
  · rw [State.readCommand, h] at hlead
    simp only [hset, Bool.true_or, hst] at hlead
    exact hlead

@[irreducible] def startRead (settings : Settings) : ByAxis Float :=
  startOrder.foldl (fun vs a =>
    vs.fill (axes (startCode a (floatOf (settings.start.get a)))).entries) .empty

/-- The state after the lines that drive the axes to their start. -/
theorem leads_starts (settings : Settings) (index : Nat) :
    Leads index { units := some settings.units }
      ((startOrder.map (writtenStart settings)).map Line.body)
      { units := some settings.units, start := startRead settings, isSetUp := true } := by
  have hstep (a : Axis) (vs : ByAxis Float) (known : Bool) (index : Nat) :
      Leads index { units := some settings.units, start := vs, isSetUp := known }
        [(writtenStart settings a).body]
        { units := some settings.units
          start := vs.fill (axes (startCode a (floatOf (settings.start.get a)))).entries
          isSetUp := true } :=
    leads_startLine settings a rfl rfl index
  have hstarts := ((hstep .z .empty false index).append (hstep .y _ true _)).append
    (hstep .x _ true _)
  simpa only [startRead, startOrder, List.map_cons, List.map_nil, List.foldl_cons, List.foldl_nil,
    List.cons_append, List.nil_append] using hstarts

/-- The state after a head: the machine is set up, and what was noted is kept. -/
def State.headed (units : Units) (start : ByAxis Float) (speed : Option Int)
    (problems : List LineProblem) (pending : List Step) : State :=
  { units := some units, start, spindle := speed, problems, pending, isSetUp := true }

theorem isFresh_headed (units : Units) (start : ByAxis Float) (speed : Option Int)
    (problems : List LineProblem) (pending : List Step) :
    (State.headed units start speed problems pending).IsFresh :=
  ⟨rfl, rfl, rfl, rfl, rfl, rfl⟩

theorem leads_afterSpindle (units : Units) (start : ByAxis Float) (speed : Option Int)
    (problems : List LineProblem) (index : Nat) :
    ∃ pending, Leads index (.headed units start speed problems [])
      [spinUpLine.body, [], incrementalLine.body, []]
      (.headed units start speed problems pending) := by
  obtain ⟨pending, hspin⟩ := leads_spinUpLine (.headed units start speed problems []) rfl index
  have hturn : Leads (index + 1 + 1) (.headed units start speed problems pending)
      [incrementalLine.body] (.headed units start speed problems pending) :=
    leads_idle (by decide) (.inl (by decide +kernel)) _ rfl _
  exact ⟨pending, ((hspin.append (Leads.blank _ _)).append hturn).append (Leads.blank _ _)⟩

theorem leads_head_of_spindle {settings : Settings} {speed : Option Int}
    {problems : List LineProblem}
    (hspindle : Leads 5 (.headed settings.units (startRead settings) none [] [])
      [(writtenSpindle settings).body]
      (.headed settings.units (startRead settings) speed problems [])) :
    ∃ pending, Leads 0 {} ((writtenHead settings).map Line.body)
      (.headed settings.units (startRead settings) speed problems pending) := by
  obtain ⟨pending, hrest⟩ :=
    leads_afterSpindle settings.units (startRead settings) speed problems 6
  have hstarts := ((leads_unitsLine settings.units 0).append (leads_starts settings 1)).append
    (Leads.blank 4 _)
  have hhead := (hstarts.append hspindle).append hrest
  have hlist : (writtenHead settings).map Line.body = [(unitsLine settings.units).body] ++
      (startOrder.map (writtenStart settings)).map Line.body ++ [[]] ++
      [(writtenSpindle settings).body] ++ [spinUpLine.body, [], incrementalLine.body, []] := by
    simp [writtenHead]
  rw [hlist]
  exact ⟨pending, hhead⟩

/-- The lines of a head are read as a machine that is set up. -/
theorem leads_head (settings : Settings) : ∃ speed problems pending,
    Leads 0 {} ((writtenHead settings).map Line.body)
      (.headed settings.units (startRead settings) speed problems pending) := by
  obtain ⟨speed, problems, hspindle⟩ :=
    leads_spindleLine settings (.headed settings.units (startRead settings) none [] []) 5
  obtain ⟨pending, hhead⟩ := leads_head_of_spindle hspindle
  exact ⟨speed, problems, pending, hhead⟩

/-- The spindle speed of a plain head is read back, and nothing is wrong in it. -/
theorem leads_plainHead {settings : Settings} (h : IsPlainHead settings) : ∃ pending,
    Leads 0 {} ((writtenHead settings).map Line.body)
      (.headed settings.units (startRead settings)
        (truncate? (settled (floatOf settings.spindle))) [] pending) :=
  leads_head_of_spindle (leads_plainSpindleLine h rfl 5)

/-! ### The foot -/

theorem newline_not_mem_footLines : ∀ l ∈ footLines, '\n' ∉ l.body := by
  have hfixed {c : String} (h : c ∈ fixedCommands) {d : String} (hd : '\n' ∉ d.toList) :
      '\n' ∉ (Line.command c d).body := newline_not_mem_command (isCode_fixed h) hd
  rw [footLines]
  simp only [List.forall_mem_cons]
  exact ⟨hfixed (by decide) (by decide), hfixed (by decide) (by decide), by simp⟩

/-- Nothing is read from the foot. -/
theorem leads_foot (st : State) (hset : st.isSetUp = true) (index : Nat) :
    Leads index st (footLines.map Line.body) st := by
  have hreturn := leads_idle (c := "G0 G54 G90 X0Y0") (d := "Return to origin") (by decide)
    (.inr (by decide +kernel)) st hset index
  have hstop := leads_idle (c := "S0") (d := "Stop spindle") (by decide)
    (.inl (by decide +kernel)) st hset (index + 1)
  exact hreturn.append hstop

/-! ### Whole programs -/

/-- A program whose lines lead from the beginning to a state is read as this state. -/
theorem read_textOf {ls : List Line} (hlines : ∀ l ∈ ls, '\n' ∉ l.body) {st : State}
    (h : Leads 0 {} (ls.map Line.body) st) : read (textOf ls) = st.closeProbe.reading := by
  have hend : readFrom false (0 + (ls.map Line.body).length) st [[]] = st := by
    rw [readFrom.eq_def]
    simp only [markOf_nil, readLine_nil]
    rw [readFrom.eq_def]
  rw [read, linesOf_textOf hlines, readLines_eq, h.reads, hend]

theorem State.Became.isSetUp {st st' : State} {dwells : Nat} {done : List Probe}
    (hst : st.IsFresh) (h : st.Became dwells done st') : st'.isSetUp = true := by
  rcases h with ⟨-, rfl⟩ | ⟨setupEnd, before, last, line, -, rfl⟩
  · exact hst.isSetUp
  · exact hst.isSetUp

/-- A program of plain operations is written, and it is read as the operations after its head. -/
theorem exists_write {ops : List Probe} (hops : ∀ p ∈ ops, IsPlainProbe p) {settings : Settings}
    (hsettings : HasFloats settings) {count : Nat}
    (hdwells : pauseCount settings.dwells = .ok count) (hcount : leastRun ≤ count) :
    ∃ text, write ops settings = .ok text ∧
      ∀ st, State.IsFresh st → Leads 0 {} ((writtenHead settings).map Line.body) st →
        ∃ st', st.Became count ops st' ∧ read text = st'.closeProbe.reading := by
  obtain ⟨lss, hlss, hlines, hleads⟩ := leads_operations hops hdwells hcount 0
  refine ⟨textOf (writtenHead settings ++ lss.flatten ++ footLines), ?_, fun st hst hhead => ?_⟩
  · rw [write, lines, headLines_eq hsettings]
    change Except.map textOf (do
      let middle ← ops.zipIdx.mapM fun p => operationLines settings.dwells (p.2 + 1) p.1
      _) = _
    rw [hlss]
    rfl
  · obtain ⟨st', hmiddle, hbecame⟩ := hleads (0 + ((writtenHead settings).map Line.body).length)
      st [] st hst (.inl ⟨rfl, rfl⟩)
    have hall := (hhead.append hmiddle).append (leads_foot st' (hbecame.isSetUp hst) _)
    refine ⟨st', hbecame, read_textOf ?_ ?_⟩
    · simp only [List.forall_mem_append]
      exact ⟨⟨newline_not_mem_writtenHead settings, hlines⟩, newline_not_mem_footLines⟩
    · rw [List.map_append, List.map_append]
      exact hall

/-- The operations that are read from a program are those it was written for, each with what is
read in its place. -/
theorem exists_write_probes {ops : List Probe} (hops : ∀ p ∈ ops, IsPlainProbe p)
    {settings : Settings} (hsettings : HasFloats settings) {count : Nat}
    (hdwells : pauseCount settings.dwells = .ok count) (hcount : leastRun ≤ count) :
    ∃ text, write ops settings = .ok text ∧ (read text).probes = ops.map rereadProbe := by
  obtain ⟨text, hwrite, hread⟩ := exists_write hops hsettings hdwells hcount
  obtain ⟨speed, problems, pending, hhead⟩ := leads_head settings
  have hfresh := isFresh_headed settings.units (startRead settings) speed problems pending
  obtain ⟨st', hbecame, hst'⟩ := hread _ hfresh hhead
  refine ⟨text, hwrite, ?_⟩
  rw [hst', State.reading]
  exact closeProbe_of_became hfresh hbecame

/-! ### A small program -/

def moveX (mode : PositionMode) (system : CoordinateSystem) : Step :=
  .rapid {
    axes := .values ⟨[(.x, .int 5)], List.nodup_singleton _⟩
    mode
    system
    description := .text "Move over (the stock)"
    id := .made }

def downward (preMoves postMoves : List Step) : Probe where
  axis := .z
  direction := .int (-1)
  distance := .int 20
  feedRate := .int 100
  backoff := .int 2
  offset := .int 0
  preMoves
  postMoves
  id := .made

theorem isPlainStep_moveX (mode : PositionMode) (system : CoordinateSystem) :
    IsPlainStep (moveX mode system) := by
  refine ⟨⟨_, rfl, by decide, by decide +kernel, by decide⟩, _, rfl, rfl, ?_⟩
  decide +kernel

theorem isPlainProbe_downward {preMoves postMoves : List Step} (hpre : ∀ s ∈ preMoves, IsPlainStep s)
    (hpost : ∀ s ∈ postMoves, IsPlainStep s) : IsPlainProbe (downward preMoves postMoves) where
  distance := show IsPlainNumber (.int 20) by decide +kernel
  distance_nonneg := show zero ≤ floatOf (.int 20) by decide +kernel
  feedRate := show IsPlainNumber (.int 100) by decide +kernel
  feedRate_pos := show zero < floatOf (.int 100) by decide +kernel
  backoff := show IsPlainNumber (.int 2) by decide +kernel
  backoff_nonneg := show zero ≤ floatOf (.int 2) by decide +kernel
  offset := show IsPlainNumber (.int 0) by decide +kernel
  preMoves := hpre
  postMoves := hpost

theorem hasFloats_default : HasFloats Settings.default := by
  have hstart : ∀ a ∈ Axis.all, IsPlainNumber (Settings.default.start.get a) := by decide +kernel
  have hspindle : IsPlainNumber Settings.default.spindle := by decide +kernel
  exact ⟨fun a => (hstart a a.mem_all).float, hspindle.float⟩

theorem exists_write_default {ops : List Probe} (hops : ∀ p ∈ ops, IsPlainProbe p) :
    ∃ text, write ops Settings.default = .ok text := by
  have hdwells : pauseCount Settings.default.dwells = .ok 15 := rfl
  obtain ⟨text, hwrite, -⟩ := exists_write hops hasFloats_default hdwells (by decide)
  exact ⟨text, hwrite⟩

theorem exists_write_downward (preMoves postMoves : List Step)
    (hpre : ∀ s ∈ preMoves, IsPlainStep s) (hpost : ∀ s ∈ postMoves, IsPlainStep s) :
    ∃ text, write [downward preMoves postMoves] Settings.default = .ok text :=
  exists_write_default (by simpa using isPlainProbe_downward hpre hpost)

end TouchProbe.Program
