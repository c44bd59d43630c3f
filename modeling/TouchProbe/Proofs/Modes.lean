import TouchProbe.Proofs.Written

/-!
The position mode of a machine that runs a program: the last mode that a command named.  The words
of commands are looked for in their texts; that they name what the steps say is proved.
-/

namespace TouchProbe

/-- A mode that is named, or else the mode that held before. -/
def PositionMode.over : PositionMode → PositionMode → PositionMode
  | .none, mode => mode
  | named, _ => named

namespace Program

open Text Number

/-! ### Modes in texts -/

/-- The mode that the word at the front of a command text names. -/
def modeWordAt? (s : List Char) : Option PositionMode :=
  if startsWord "G91".toList s then some .relative
  else if startsWord "G90".toList s then some .absolute
  else none

/-- The modes that the words of a command text name, in order. -/
def modesNamed (s : List Char) : List PositionMode := allAlong modeWordAt? s

/-- The mode after a line: the last one that its command text names. -/
def modeAfterLine (mode : PositionMode) (line : List Char) : PositionMode :=
  (modesNamed (code (trim line))).getLast?.getD mode

def modeFrom (mode : PositionMode) (lines : List (List Char)) : PositionMode :=
  lines.foldl modeAfterLine mode

/-- Whether every probe line of a text is reached in incremental mode. -/
def ProbesIncrementally (text : String) : Prop :=
  ∀ before line after, linesOf text = before ++ line :: after →
    isProbing (code (trim line)) = true → modeFrom .none before = .relative

def ProbesFrom : PositionMode → List (List Char) → Prop
  | _, [] => True
  | mode, line :: lines =>
    (isProbing (code (trim line)) = true → mode = .relative) ∧
      ProbesFrom (modeAfterLine mode line) lines

theorem modeFrom_append (mode : PositionMode) (ls ks : List (List Char)) :
    modeFrom mode (ls ++ ks) = modeFrom (modeFrom mode ls) ks := List.foldl_append

theorem probesFrom_append {mode : PositionMode} {ls ks : List (List Char)} :
    ProbesFrom mode (ls ++ ks) ↔ ProbesFrom mode ls ∧ ProbesFrom (modeFrom mode ls) ks := by
  induction ls generalizing mode with
  | nil => simp [ProbesFrom, modeFrom]
  | cons line ls ih =>
      rw [List.cons_append, ProbesFrom, ProbesFrom, ih, and_assoc]
      rfl

theorem probesFrom_iff {mode : PositionMode} {lines : List (List Char)} :
    ProbesFrom mode lines ↔ ∀ before line after, lines = before ++ line :: after →
      isProbing (code (trim line)) = true → modeFrom mode before = .relative := by
  constructor
  · rintro h before line after rfl hprobe
    exact (probesFrom_append.1 h).2.1 hprobe
  · intro h
    induction lines generalizing mode with
    | nil => trivial
    | cons line lines ih =>
        refine ⟨h [] line lines rfl, ih ?_⟩
        rintro before line' after rfl hprobe
        exact h (line :: before) line' after rfl hprobe

theorem probesIncrementally_iff {text : String} :
    ProbesIncrementally text ↔ ProbesFrom .none (linesOf text) := probesFrom_iff.symm

/-! ### Modes of words -/

def Word.mode? (w : Word) : Option PositionMode :=
  if w.is 'G' "91".toList then some .relative
  else if w.is 'G' "90".toList then some .absolute
  else none

theorem modeWordAt?_eq {w : Word} {r : List Char} (hr : numberEnds r = true) :
    modeWordAt? (w.letter :: (w.tail ++ r)) = w.mode? := by
  rw [modeWordAt?, show "G91".toList = 'G' :: "91".toList from rfl,
    show "G90".toList = 'G' :: "90".toList from rfl, startsWord_eq (by decide) hr,
    startsWord_eq (by decide) hr, Word.mode?]

theorem modeWordAt?_filler {b : Char} (hb : IsFiller b) (r : List Char) :
    modeWordAt? (b :: r) = none := by
  rw [modeWordAt?, show "G91".toList = 'G' :: "91".toList from rfl,
    show "G90".toList = 'G' :: "90".toList from rfl, startsWord_filler (by decide) hb,
    startsWord_filler (by decide) hb]
  rfl

theorem modesNamed_eq {ws : List Word} {s : List Char} (h : Spells ws s) :
    modesNamed s = ws.filterMap Word.mode? := by
  rw [modesNamed]
  induction h with
  | nil => rfl
  | @cons w ws gap s hw hgap hs ih =>
      have hfiller : ∀ b ∈ w.tail ++ gap, ∀ r, modeWordAt? (b :: r) = none :=
        fun b hb => modeWordAt?_filler (filler_of_mem hw hgap b hb)
      rw [allAlong, modeWordAt?_eq (numberEnds_gap hgap hs), ← List.append_assoc,
        allAlong_append_of_none hfiller, ih, List.filterMap_cons]
      cases w.mode? <;> rfl

theorem mode?_of_not_active {w : Word} (h : w.isActive = false) : w.mode? = none := by
  rw [Word.mode?, is_of_not_active (by decide) _ w h, is_of_not_active (by decide) _ w h]
  rfl

theorem modes_filter_active (ws : List Word) :
    (ws.filter Word.isActive).filterMap Word.mode? = ws.filterMap Word.mode? := by
  rw [List.filterMap_filter]
  apply List.filterMap_congr
  intro w _
  cases h : w.isActive with
  | true => rfl
  | false => simp [mode?_of_not_active h]

/-! ### Modes of lines -/

theorem code_parenthesised {c : List Char} (h : c ≠ []) : code (trim (parenthesised c)) = [] := by
  rw [(isComment_trim_parenthesised h).1]
  obtain ⟨b, c, rfl⟩ := List.exists_cons_of_ne_nil h
  rfl

section Command

variable {c d : String} {text : List Char} (hc : IsCode c text)

include hc

theorem code_command : code (trim (Line.command c d).body) = text := by
  rw [Line.body, code_trim_pad hc.isCommand, hc.upper]

theorem modeAfterLine_command (mode : PositionMode) :
    modeAfterLine mode (Line.command c d).body = (modesNamed text).getLast?.getD mode := by
  rw [modeAfterLine, code_command hc]

end Command

/-- What lines do to the mode, none of them being a probe line. -/
structure Turns (ls : List Line) (turn : PositionMode → PositionMode) : Prop where
  mode (mode : PositionMode) : modeFrom mode (ls.map Line.body) = turn mode
  idle (mode : PositionMode) : ProbesFrom mode (ls.map Line.body)

theorem Turns.nil : Turns [] id := ⟨fun _ => rfl, fun _ => trivial⟩

theorem Turns.append {ls ks : List Line} {f g : PositionMode → PositionMode} (hf : Turns ls f)
    (hg : Turns ks g) : Turns (ls ++ ks) (g ∘ f) where
  mode mode := by rw [List.map_append, modeFrom_append, hf.mode, hg.mode, Function.comp_apply]
  idle mode := by
    rw [List.map_append, probesFrom_append, hf.mode]
    exact ⟨hf.idle mode, hg.idle (f mode)⟩

theorem Turns.single {l : Line} {ms : List PositionMode}
    (hprobe : isProbing (code (trim l.body)) = false) (hms : modesNamed (code (trim l.body)) = ms) :
    Turns [l] fun mode => ms.getLast?.getD mode where
  mode mode := by
    rw [List.map_singleton, modeFrom, List.foldl_cons, List.foldl_nil, modeAfterLine, hms]
  idle mode := by
    refine ⟨fun h => ?_, trivial⟩
    rw [hprobe] at h
    exact absurd h Bool.false_ne_true

theorem Turns.unnamed {l : Line} (hprobe : isProbing (code (trim l.body)) = false)
    (hms : modesNamed (code (trim l.body)) = []) : Turns [l] id := Turns.single hprobe hms

theorem Turns.blank : Turns [.blank] id := Turns.unnamed rfl rfl

theorem Turns.banner {c : String} (h : c.toList ≠ []) : Turns [.banner c] id := by
  have hcode : code (trim (Line.banner c).body) = [] := code_parenthesised h
  exact Turns.unnamed (by rw [hcode]; rfl) (by rw [hcode]; rfl)

/-- A command turns the mode to the last one that its words name. -/
theorem Turns.command {c d : String} {ws : List Word} {text : List Char} (hc : IsCode c text)
    (hs : Spells ws text) (hprobe : ws.any Word.probes = false) :
    Turns [.command c d] fun mode => (ws.filterMap Word.mode?).getLast?.getD mode := by
  apply Turns.single
  · rw [code_command hc, isProbing_eq hs, hprobe]
  · rw [code_command hc, modesNamed_eq hs]

/-- A command whose words name no mode leaves it as it is. -/
theorem Turns.idle_command {c d : String} {ws : List Word} {text : List Char} (hc : IsCode c text)
    (hs : Spells ws text) (hprobe : ws.any Word.probes = false)
    (hnone : ws.filterMap Word.mode? = []) : Turns [.command c d] id := by
  have h := Turns.command (d := d) hc hs hprobe
  rw [hnone] at h
  exact h

theorem probes_of_not_active {w : Word} (h : w.isActive = false) : w.probes = false := by
  rw [Word.probes, ne_of_not_active h (by decide)]
  rfl

theorem turns_rapid {c d : String} {mode : PositionMode} {system : CoordinateSystem}
    {es : List (Axis × Float)} (hc : IsCode c (rapidCode mode system es)) :
    Turns [.command c d] (PositionMode.over mode) := by
  have hfilter := filter_rapidWords mode system es
  have hprobe : ((rapidWords mode system es).map Word.raised).any Word.probes = false := by
    rw [← any_filter_active fun w => probes_of_not_active, hfilter]
    cases mode <;> cases system <;> rfl
  have hmodes : (fun before => (((rapidWords mode system es).map Word.raised).filterMap
      Word.mode?).getLast?.getD before) = PositionMode.over mode := by
    rw [← modes_filter_active, hfilter]
    funext before
    cases mode <;> cases system <;> rfl
  rw [← hmodes]
  exact Turns.command hc (spells_rapidCode mode system es) hprobe

theorem turns_pause (dwell : Dwell) (d : String) : Turns [.command (pauseCommand dwell) d] id :=
  Turns.idle_command (isCode_pauseCommand dwell) (spells_pauseCode _) rfl rfl

/-! ### Modes of steps -/

def namedMode : Step → PositionMode
  | .rapid r => if (writtenStep (.rapid r)).isSome then r.mode else .none
  | .dwell _ => .none

def modeThrough (mode : PositionMode) (steps : List Step) : PositionMode :=
  steps.foldl (fun mode s => (namedMode s).over mode) mode

theorem turns_step (s : Step) : Turns (writtenStep s).toList (PositionMode.over (namedMode s)) := by
  cases s with
  | rapid r =>
      cases hs : writtenStep (.rapid r) with
      | none =>
          rw [namedMode, hs]
          exact Turns.nil
      | some l =>
          rw [namedMode, hs]
          rw [writtenStep] at hs
          split at hs
          next vs =>
            split at hs
            · cases hs
            · obtain rfl := Option.some.inj hs
              exact turns_rapid (isCode_rapidCommand r _)
          next => cases hs
  | dwell d =>
      rw [writtenStep]
      split
      · exact turns_pause d _
      · exact Turns.nil

theorem turns_steps (steps : List Step) :
    Turns (steps.filterMap writtenStep) fun mode => modeThrough mode steps := by
  induction steps with
  | nil => exact Turns.nil
  | cons s steps ih =>
      have h := (turns_step s).append ih
      have hlist : (writtenStep s).toList ++ steps.filterMap writtenStep =
          (s :: steps).filterMap writtenStep := by
        rw [List.filterMap_cons]
        cases writtenStep s <;> rfl
      rw [hlist] at h
      exact h

theorem turns_moves (moves : List Step) {banner : String} (hbanner : banner.toList ≠ []) :
    Turns (writtenMoves moves banner) fun mode => modeThrough mode moves := by
  rw [writtenMoves]
  split
  next hempty =>
    rw [List.isEmpty_iff.1 hempty]
    exact Turns.nil
  next => exact ((Turns.banner hbanner).append (turns_steps moves)).append Turns.blank

/-! ### Modes of operations -/

theorem turns_clearing (count : Nat) : Turns (List.replicate count clearingLine) id := by
  have hline : Turns [clearingLine] id := Turns.unnamed (by decide +kernel) (by decide +kernel)
  induction count with
  | zero => exact Turns.nil
  | succ count ih => exact hline.append ih

theorem turns_toPauses (count number : Nat) (p : Probe) :
    Turns (.banner (headBanner number p.axis) :: writtenMoves p.preMoves (preBanner number) ++
      List.replicate count clearingLine ++ [.blank]) fun mode => modeThrough mode p.preMoves :=
  (((Turns.banner (headBanner_lines number p.axis).2).append
    (turns_moves p.preMoves (preBanner_lines number).2)).append (turns_clearing count)).append
    Turns.blank

/-- The retreat names the incremental mode, whatever mode held before. -/
theorem turns_afterProbe (p : Probe) :
    Turns [originLine p, backoffLine p, .blank] fun _ => .relative := by
  have horigin : Turns [originLine p] id :=
    Turns.idle_command (isCode_originCommand p) (spells_originCode _ _)
      (by cases p.axis <;> rfl) (by cases p.axis <;> rfl)
  have hbackoff : Turns [backoffLine p] (PositionMode.over .relative) :=
    turns_rapid (isCode_backoffCommand p)
  exact (horigin.append hbackoff).append Turns.blank

theorem isProbing_probeLine (p : Probe) : isProbing (code (trim (probeLine p).body)) = true := by
  rw [probeLine, code_command (isCode_probeCommand p), isProbing_eq (spells_probeCode _ _ _ _)]
  rfl

theorem modeAfterLine_probeLine (mode : PositionMode) (p : Probe) :
    modeAfterLine mode (probeLine p).body = mode := by
  rw [probeLine, modeAfterLine_command (isCode_probeCommand p), modesNamed_eq (spells_probeCode _ _ _ _)]
  cases p.axis <;> rfl

section Operation

variable (mode : PositionMode) (count number : Nat) (p : Probe)

theorem map_body_writtenToProbe : (writtenToProbe count number p).map Line.body =
    (.banner (headBanner number p.axis) :: writtenMoves p.preMoves (preBanner number) ++
      List.replicate count clearingLine ++ [.blank] : List Line).map Line.body ++
    (probeLine p).body :: [originLine p, backoffLine p, .blank].map Line.body := by
  simp [writtenToProbe]

theorem modeFrom_toProbe :
    modeFrom mode ((writtenToProbe count number p).map Line.body) = .relative := by
  rw [map_body_writtenToProbe, modeFrom_append, modeFrom, List.foldl_cons]
  exact (turns_afterProbe p).mode _

/-- The probe line of an operation is reached in the mode that the moves before it leave. -/
theorem probesFrom_toProbe : ProbesFrom mode ((writtenToProbe count number p).map Line.body) ↔
    modeThrough mode p.preMoves = .relative := by
  have hpauses := turns_toPauses count number p
  rw [map_body_writtenToProbe, probesFrom_append, hpauses.mode, ProbesFrom, isProbing_probeLine,
    modeAfterLine_probeLine]
  exact ⟨fun h => h.2.1 rfl, fun h => ⟨hpauses.idle mode, fun _ => h, (turns_afterProbe p).idle _⟩⟩

theorem turns_afterOperation : Turns (writtenMoves p.postMoves (postBanner number) ++ [.blank])
    fun mode => modeThrough mode p.postMoves :=
  (turns_moves p.postMoves (postBanner_lines number).2).append Turns.blank

theorem modeFrom_operation : modeFrom mode ((writtenOperation count number p).map Line.body) =
    modeThrough .relative p.postMoves := by
  rw [writtenOperation, List.append_assoc, List.map_append, modeFrom_append, modeFrom_toProbe]
  exact (turns_afterOperation number p).mode _

theorem probesFrom_operation :
    ProbesFrom mode ((writtenOperation count number p).map Line.body) ↔
      modeThrough mode p.preMoves = .relative := by
  rw [writtenOperation, List.append_assoc, List.map_append, probesFrom_append, probesFrom_toProbe]
  exact and_iff_left ((turns_afterOperation number p).idle _)

end Operation

/-! ### Modes of programs -/

/-- The mode that operations leave after their last moves. -/
def modeBetween : PositionMode → List Probe → PositionMode
  | mode, [] => mode
  | _, p :: ops => modeBetween (modeThrough .relative p.postMoves) ops

/-- Whether every operation is probed in incremental mode, given the mode before the first. -/
def ProbesAll : PositionMode → List Probe → Prop
  | _, [] => True
  | mode, p :: ops =>
    modeThrough mode p.preMoves = .relative ∧ ProbesAll (modeThrough .relative p.postMoves) ops

theorem modeFrom_operations (mode : PositionMode) (count number : Nat) (ops : List Probe) :
    modeFrom mode ((writtenOperations count number ops).map Line.body) = modeBetween mode ops := by
  induction ops generalizing mode number with
  | nil => rfl
  | cons p ops ih =>
      rw [writtenOperations, List.map_append, modeFrom_append, modeFrom_operation, ih, modeBetween]

theorem probesFrom_operations (mode : PositionMode) (count number : Nat) (ops : List Probe) :
    ProbesFrom mode ((writtenOperations count number ops).map Line.body) ↔ ProbesAll mode ops := by
  induction ops generalizing mode number with
  | nil => exact Iff.rfl
  | cons p ops ih =>
      rw [writtenOperations, List.map_append, probesFrom_append, modeFrom_operation,
        probesFrom_operation, ih, ProbesAll]

theorem probesAll_iff {mode : PositionMode} {ops : List Probe} :
    ProbesAll mode ops ↔ ∀ before p after, ops = before ++ p :: after →
      modeThrough (modeBetween mode before) p.preMoves = .relative := by
  constructor
  · rintro h before p after rfl
    induction before generalizing mode with
    | nil => exact h.1
    | cons q before ih => exact ih h.2
  · intro h
    induction ops generalizing mode with
    | nil => trivial
    | cons q ops ih =>
        refine ⟨h [] q ops rfl, ih ?_⟩
        rintro before p after rfl
        exact h (q :: before) p after rfl

theorem turns_fixed {c d : String} (hc : c ∈ fixedCommands) :
    Turns [.command c d] fun mode => (modesNamed c.toList).getLast?.getD mode := by
  have hall : ∀ c ∈ fixedCommands, isProbing c.toList = false := by decide +kernel
  exact Turns.single (by rw [code_command (isCode_fixed hc)]; exact hall c hc)
    (by rw [code_command (isCode_fixed hc)])

theorem turns_start (settings : Settings) (a : Axis) :
    Turns [writtenStart settings a] fun _ => .absolute := by
  have h := Turns.command (d := s!"Absolute move in machine coordinates to {a.name}")
    (isCode_startCommand a (floatOf (settings.start.get a))) (spells_startCode a _)
    (by cases a <;> rfl)
  have hmodes : ((startWords a (floatOf (settings.start.get a))).map Word.raised).filterMap
      Word.mode? = [.absolute] := by
    cases a <;> rfl
  rw [hmodes] at h
  exact h

/-- The head ends in incremental mode. -/
theorem turns_head (settings : Settings) :
    Turns (writtenHead settings) fun _ => .relative := by
  have hunits : Turns [unitsLine settings.units] id := by
    cases settings.units
    · exact turns_fixed (by decide)
    · exact turns_fixed (by decide)
  have hspindle : Turns [writtenSpindle settings] id :=
    Turns.idle_command (isCode_spindleCommand _) (spells_spindleCode _) rfl rfl
  have hspin : Turns [spinUpLine] id := turns_fixed (by decide)
  have hturn : Turns [incrementalLine] fun _ => .relative := turns_fixed (by decide)
  have hstarts := ((turns_start settings .z).append (turns_start settings .y)).append
    (turns_start settings .x)
  exact (((((hunits.append hstarts).append Turns.blank).append hspindle).append hspin).append
    Turns.blank).append (hturn.append Turns.blank)

theorem turns_foot : Turns footLines fun _ => .absolute :=
  (turns_fixed (c := "G0 G54 G90 X0Y0") (by decide)).append (turns_fixed (c := "S0") (by decide))

/-! ### Modes of written texts -/

/-- Whether the comment of a step stays on its line. -/
def IsOneLine (s : Step) : Prop := '\n' ∉ (commentOf s.description).toList

theorem newline_not_mem_writtenStep {s : Step} {l : Line} (h : writtenStep s = some l)
    (hs : IsOneLine s) : '\n' ∉ l.body := by
  cases s with
  | rapid r =>
      rw [writtenStep] at h
      split at h
      next vs =>
        split at h
        · cases h
        · obtain rfl := Option.some.inj h
          exact newline_not_mem_command (isCode_rapidCommand r _) hs
      next => cases h
  | dwell d =>
      rw [writtenStep] at h
      split at h
      · obtain rfl := Option.some.inj h
        exact newline_not_mem_command (isCode_pauseCommand d) hs
      · cases h

theorem newline_not_mem_writtenMoves {moves : List Step} (h : ∀ s ∈ moves, IsOneLine s)
    {banner : String} (hbanner : '\n' ∉ banner.toList) :
    ∀ l ∈ writtenMoves moves banner, '\n' ∉ l.body := by
  rw [writtenMoves]
  split
  · simp
  · simp only [List.cons_append, List.forall_mem_cons, List.forall_mem_append]
    refine ⟨newline_not_mem_parenthesised hbanner, fun l hl => ?_, List.not_mem_nil, by simp⟩
    obtain ⟨s, hs, hsl⟩ := List.mem_filterMap.1 hl
    exact newline_not_mem_writtenStep hsl (h s hs)

def HasOneLiners (p : Probe) : Prop := ∀ s ∈ p.preMoves ++ p.postMoves, IsOneLine s

theorem newline_not_mem_writtenOperation {p : Probe} (h : HasOneLiners p) (count number : Nat) :
    ∀ l ∈ writtenOperation count number p, '\n' ∉ l.body := by
  obtain ⟨hpre, hpost⟩ := List.forall_mem_append.1 h
  have hlines := newline_not_mem_probeLines p
  rw [writtenOperation, writtenToProbe]
  simp only [List.forall_mem_cons, List.forall_mem_append] at hlines ⊢
  refine ⟨⟨⟨⟨⟨?_, ?_⟩, fun l hl => ?_⟩, List.not_mem_nil, hlines⟩, ?_⟩, List.not_mem_nil, by simp⟩
  · exact newline_not_mem_parenthesised (headBanner_lines number p.axis).1
  · exact newline_not_mem_writtenMoves hpre (preBanner_lines number).1
  · rw [List.eq_of_mem_replicate hl]
    exact newline_not_mem_pad isCommand_clearing (by decide)
  · exact newline_not_mem_writtenMoves hpost (postBanner_lines number).1

theorem newline_not_mem_writtenOperations {ops : List Probe} (h : ∀ p ∈ ops, HasOneLiners p)
    (count number : Nat) : ∀ l ∈ writtenOperations count number ops, '\n' ∉ l.body := by
  induction ops generalizing number with
  | nil => simp [writtenOperations]
  | cons p ops ih =>
      rw [writtenOperations, List.forall_mem_append]
      exact ⟨newline_not_mem_writtenOperation (h p List.mem_cons_self) count number,
        ih (fun q hq => h q (List.mem_cons_of_mem p hq)) (number + 1)⟩

/-- The lines of a text that was written. -/
theorem linesOf_write {ops : List Probe} {settings : Settings} {text : String}
    (h : write ops settings = .ok text) (hops : ∀ p ∈ ops, HasOneLiners p) :
    ∃ count, lines ops settings =
        .ok (writtenHead settings ++ writtenOperations count 1 ops ++ footLines) ∧
      linesOf text = (writtenHead settings ++ writtenOperations count 1 ops ++ footLines).map
        Line.body ++ [[]] := by
  obtain ⟨ls, hls, rfl⟩ := map_eq_ok.1 h
  obtain ⟨count, -, rfl⟩ := lines_eq_ok hls
  refine ⟨count, hls, linesOf_textOf ?_⟩
  simp only [List.forall_mem_append]
  exact ⟨⟨newline_not_mem_writtenHead settings, newline_not_mem_writtenOperations hops count 1⟩,
    newline_not_mem_footLines⟩

theorem probesIncrementally_write {ops : List Probe} {settings : Settings} {text : String}
    (h : write ops settings = .ok text) (hops : ∀ p ∈ ops, HasOneLiners p) :
    ProbesIncrementally text ↔ ProbesAll .relative ops := by
  obtain ⟨count, -, hlines⟩ := linesOf_write h hops
  have hhead := turns_head settings
  have hend : ProbesFrom .absolute [[]] := ⟨fun hprobe => absurd hprobe (by decide), trivial⟩
  rw [probesIncrementally_iff, hlines, List.map_append, List.map_append, probesFrom_append,
    probesFrom_append, probesFrom_append, modeFrom_append, modeFrom_append, hhead.mode,
    probesFrom_operations, turns_foot.mode]
  exact ⟨fun hall => hall.1.1.2, fun hall => ⟨⟨⟨hhead.idle _, hall⟩, turns_foot.idle _⟩, hend⟩⟩

/-- The moves since the latest probe, among those after the last of some operations and before the
next one. -/
def movesSince (before : List Probe) (moves : List Step) : List Step :=
  ((before.getLast?.map Probe.postMoves).getD []) ++ moves

theorem modeThrough_append (mode : PositionMode) (moves steps : List Step) :
    modeThrough mode (moves ++ steps) = modeThrough (modeThrough mode moves) steps :=
  List.foldl_append

theorem modeBetween_concat (mode : PositionMode) (before : List Probe) (p : Probe) :
    modeBetween mode (before ++ [p]) = modeThrough .relative p.postMoves := by
  induction before generalizing mode with
  | nil => rfl
  | cons q before ih => exact ih _

theorem modeThrough_movesSince (before : List Probe) (moves : List Step) :
    modeThrough .relative (movesSince before moves) =
      modeThrough (modeBetween .relative before) moves := by
  rcases List.eq_nil_or_concat before with rfl | ⟨init, p, rfl⟩
  · rfl
  · rw [List.concat_eq_append, movesSince, List.getLast?_concat, Option.map_some, Option.getD_some,
      modeThrough_append, modeBetween_concat]

/-- The probe lines of a program are all reached in incremental mode exactly if the moves between
a probe and the next one, and those before the first, never leave the absolute mode. -/
theorem probesIncrementally_iff_moves {ops : List Probe} {settings : Settings} {text : String}
    (h : write ops settings = .ok text) (hops : ∀ p ∈ ops, HasOneLiners p) :
    ProbesIncrementally text ↔ ∀ before p after, ops = before ++ p :: after →
      modeThrough .relative (movesSince before p.preMoves) = .relative := by
  simp only [probesIncrementally_write h hops, probesAll_iff, modeThrough_movesSince]

theorem isOneLine_moveX (mode : PositionMode) (system : CoordinateSystem) :
    IsOneLine (moveX mode system) := by
  rw [IsOneLine, moveX, Step.description, commentOf_text]
  decide

theorem hasOneLiners_downward {preMoves postMoves : List Step}
    (h : ∀ s ∈ preMoves ++ postMoves, ∃ mode system, s = moveX mode system) :
    HasOneLiners (downward preMoves postMoves) := by
  intro s hs
  obtain ⟨mode, system, rfl⟩ := h s hs
  exact isOneLine_moveX mode system

theorem probesIncrementally_downward :
    ∃ text, write [downward [moveX .relative .none] []] Settings.default = .ok text ∧
      (ProbesIncrementally text ↔ ∀ before p after,
        [downward [moveX .relative .none] []] = before ++ p :: after →
          modeThrough .relative (movesSince before p.preMoves) = .relative) := by
  obtain ⟨text, hwrite⟩ := exists_write_downward [moveX .relative .none] []
    (by simp [isPlainStep_moveX]) (by simp)
  refine ⟨text, hwrite, probesIncrementally_iff_moves hwrite ?_⟩
  simpa using hasOneLiners_downward (by simp)

/-- An absolute move before a probe makes the probe line name a coordinate. -/
theorem not_probesIncrementally_absolute :
    ∃ text, write [downward [moveX .absolute .wcs] []] Settings.default = .ok text ∧
      HasOneLiners (downward [moveX .absolute .wcs] []) ∧ ¬ ProbesIncrementally text := by
  have hone : HasOneLiners (downward [moveX .absolute .wcs] []) :=
    hasOneLiners_downward (by simp)
  obtain ⟨text, hwrite⟩ := exists_write_downward [moveX .absolute .wcs] []
    (by simp [isPlainStep_moveX]) (by simp)
  refine ⟨text, hwrite, hone, ?_⟩
  rw [probesIncrementally_write hwrite (by simpa using hone)]
  rintro ⟨hmode, -⟩
  exact absurd hmode (by decide)

end Program

end TouchProbe
