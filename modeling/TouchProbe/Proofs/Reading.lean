import TouchProbe.Proofs.Reread
import TouchProbe.Proofs.Runs

/-!
What the lines of a written program do to what has been read.  Each kind of line has one lemma on
its step, and the lines of an operation lead from one state to the next whatever follows them.
-/

namespace TouchProbe.Program

open Text Number

/-! ### Lines and marks -/

theorem markOf_nil : markOf [] = .passes := rfl

theorem isComment_trim_parenthesised {c : List Char} (h : c ≠ []) :
    trim (parenthesised c) = parenthesised c ∧ isComment (parenthesised c) = true := by
  obtain ⟨b, c, rfl⟩ := List.exists_cons_of_ne_nil h
  exact ⟨trim_of_ends (c := '(') (d := ')') (s := b :: c) (by decide) (by decide), rfl⟩

theorem markOf_parenthesised {c : List Char} (h : c ≠ []) : markOf (parenthesised c) = .passes := by
  obtain ⟨htrim, hcomment⟩ := isComment_trim_parenthesised h
  simp [markOf, htrim, hcomment]

theorem readLine_nil (st : State) (index : Nat) (role : State.Role) :
    st.readLine index role [] = st := rfl

theorem readLine_parenthesised {c : List Char} (h : c ≠ []) (st : State) (index : Nat)
    (role : State.Role) :
    st.readLine index role (parenthesised c) = st.readComment (parenthesised c) := by
  obtain ⟨htrim, hcomment⟩ := isComment_trim_parenthesised h
  have hne : (parenthesised c).isEmpty = false := by
    obtain ⟨b, c, rfl⟩ := List.exists_cons_of_ne_nil h
    rfl
  simp [State.readLine, htrim, hcomment, hne]

section Command

variable {c d : List Char} {column : Int} (hc : IsCommand c)

include hc

theorem isEmpty_trim_pad : (trim (pad column c d)).isEmpty = false := by
  rw [List.isEmpty_eq_false_iff]
  exact trim_pad_ne_nil hc

theorem markOf_pad : markOf (pad column c d) =
    if classify (upper c) == .dwell && (pause? (upper c)).any (· == clearingPause) then .clears
    else .ends := by
  have hclears : isClearing (trim (pad column c d)) =
      (classify (upper c) == .dwell && (pause? (upper c)).any (· == clearingPause)) := by
    simp [isClearing, isEmpty_trim_pad hc, isComment_trim_pad hc, code_trim_pad hc]
  simp only [markOf, isEmpty_trim_pad hc, isComment_trim_pad hc, Bool.or_self, Bool.false_eq_true,
    if_false, hclears]

theorem readLine_pad (hne : upper c ≠ []) (st : State) (index : Nat) :
    st.readLine index .free (pad column c d) =
      st.readCommand (index + 1) (trim (pad column c d)) (upper c) := by
  have hcode : (code (trim (pad column c d))).isEmpty = false := by
    rw [code_trim_pad hc, List.isEmpty_eq_false_iff]
    exact hne
  simp only [State.readLine, isEmpty_trim_pad hc, isComment_trim_pad hc, Bool.false_eq_true,
    if_false, hcode]
  rw [code_trim_pad hc]

theorem readLine_pad_starts (st : State) (index length : Nat) :
    st.readLine index (.starts length) (pad column c d) = st.enterRun length := by
  simp only [State.readLine, isEmpty_trim_pad hc, isComment_trim_pad hc, Bool.false_eq_true,
    if_false]

theorem readLine_pad_member (st : State) (index : Nat) :
    st.readLine index .member (pad column c d) = st := by
  simp only [State.readLine, isEmpty_trim_pad hc, isComment_trim_pad hc, Bool.false_eq_true,
    if_false]

/-- A description comes back from the comment of its line. -/
theorem describe_pad {s made : String} (hs : s.toList ≠ []) (htrim : trim s.toList = s.toList)
    (hline : '\n' ∉ s.toList) : State.describe (trim (pad column c s.toList)) made = s := by
  have hne : s.toList.isEmpty = false := List.isEmpty_eq_false_iff.2 hs
  rw [State.describe, comment?_trim_pad hc hline, htrim, hne]
  simp

end Command

/-! ### Leading from state to state -/

/-- Whether lines lead from one state to another, whatever follows them.  No run of clearing
pauses is open before them and after them. -/
structure Leads (index : Nat) (st : State) (ls : List (List Char)) (st' : State) : Prop where
  reads (rest : List (List Char)) :
    readFrom false index st (ls ++ rest) = readFrom false (index + ls.length) st' rest

theorem Leads.nil (index : Nat) (st : State) : Leads index st [] st := ⟨fun _ => rfl⟩

theorem Leads.append {index : Nat} {st st₁ st₂ : State} {ls ks : List (List Char)}
    (h₁ : Leads index st ls st₁) (h₂ : Leads (index + ls.length) st₁ ks st₂) :
    Leads index st (ls ++ ks) st₂ := by
  refine ⟨fun rest => ?_⟩
  rw [List.append_assoc, h₁.reads, h₂.reads, List.length_append, Nat.add_assoc]

theorem Leads.single {index : Nat} {st : State} {line : List Char} (h : markOf line ≠ .clears) :
    Leads index st [line] (st.readLine index .free line) := by
  refine ⟨fun rest => ?_⟩
  rw [List.singleton_append, readFrom.eq_def]
  cases hm : markOf line with
  | clears => exact absurd hm h
  | passes => simp [hm]
  | ends => simp [hm]

theorem Leads.blank (index : Nat) (st : State) : Leads index st [[]] st :=
  Leads.single (by decide)

section Run

variable {pause line : List Char} (hpause : markOf pause = .clears)

include hpause

theorem pausesAhead_replicate (hline : markOf line = .ends) (count : Nat)
    (rest : List (List Char)) :
    pausesAhead ((List.replicate count pause ++ [] :: line :: rest).map markOf) = count := by
  induction count with
  | zero => simp [pausesAhead, markOf_nil, hline]
  | succ count ih =>
      rw [List.replicate_succ, List.cons_append, List.map_cons, hpause, pausesAhead, ih]

theorem readFrom_members (hmember : ∀ st i, State.readLine st i .member pause = st)
    (count index : Nat) (st : State) (rest : List (List Char)) :
    readFrom true index st (List.replicate count pause ++ rest) =
      readFrom true (index + count) st rest := by
  induction count generalizing index with
  | zero => rfl
  | succ count ih =>
      rw [List.replicate_succ, List.cons_append, readFrom.eq_def]
      simp only [hpause, pauseRole, if_true, hmember]
      rw [ih, Nat.add_assoc, Nat.add_comm 1]

/-- Clearing pauses, a blank line and a line that ends the run: the run is entered once. -/
theorem Leads.run {index count : Nat} {st : State} (hcount : leastRun ≤ count)
    (hstart : ∀ st i n, State.readLine st i (.starts n) pause = st.enterRun n)
    (hmember : ∀ st i, State.readLine st i .member pause = st) (hline : markOf line = .ends) :
    Leads index st (List.replicate count pause ++ [[], line])
      ((st.enterRun count).readLine (index + count + 1) .free line) := by
  refine ⟨fun rest => ?_⟩
  obtain ⟨count, rfl⟩ : ∃ k, count = k + 1 := ⟨count - 1, by rw [leastRun] at hcount; omega⟩
  have hrole : pauseRole false ((List.replicate count pause ++ [] :: line :: rest).map markOf) =
      .starts (count + 1) := by
    rw [pauseRole, pausesAhead_replicate hpause hline, if_neg Bool.false_ne_true, if_pos hcount]
  have hlist : List.replicate (count + 1) pause ++ [[], line] ++ rest =
      pause :: (List.replicate count pause ++ [] :: line :: rest) := by
    simp [List.replicate_succ]
  rw [hlist, readFrom.eq_def]
  simp only [hpause, hrole, hstart]
  rw [readFrom_members hpause hmember, readFrom.eq_def]
  simp only [markOf_nil, readLine_nil]
  rw [readFrom.eq_def]
  have hplace : index + 1 + count + 1 = index + (count + 1) + 1 := by omega
  have hnext : index + (List.replicate (count + 1) pause ++ [[], line]).length =
      index + (count + 1) + 1 + 1 := by
    simp only [List.length_append, List.length_replicate, List.length_cons, List.length_nil]
    omega
  simp only [hline, hplace, hnext]

end Run

/-! ### Lines with a command -/

theorem newline_not_mem_pad {column : Int} {c d : List Char} (hc : IsCommand c) (hd : '\n' ∉ d) :
    '\n' ∉ pad column c d := by
  rw [pad_eq hc, List.mem_append, List.mem_append, not_or, not_or]
  refine ⟨⟨hc.noNewline, ?_⟩, ?_⟩
  · intro h
    exact absurd (List.eq_of_mem_replicate h) (by decide)
  · rw [parenthesised]
    split
    · simp
    · simp [hd]

structure IsCode (c : String) (code : List Char) : Prop where
  isCommand : IsCommand c.toList
  upper : upper c.toList = code
  nonempty : code ≠ []

/-- A line of written words is a command. -/
theorem isCode_of_spell {c : String} {ws : List Word} (hc : c.toList = spell ws) (hne : ws ≠ [])
    (hw : ∀ w ∈ ws, w.IsWritten) : IsCode c (upper (spell ws)) where
  isCommand := hc ▸ isCommand_spell hne hw
  upper := congrArg _ hc
  nonempty := by
    rw [upper_spell hw]
    exact spell_ne_nil (by simpa using hne)

section Code

variable {c d : String} {code : List Char} (hc : IsCode c code)

include hc

theorem newline_not_mem_command (hd : '\n' ∉ d.toList) : '\n' ∉ (Line.command c d).body :=
  newline_not_mem_pad hc.isCommand hd

theorem readLine_command (st : State) (index : Nat) :
    st.readLine index .free (Line.command c d).body = st.readCommand (index + 1)
      (trim (pad commentColumn c.toList d.toList)) code := by
  rw [Line.body, readLine_pad hc.isCommand (by rw [hc.upper]; exact hc.nonempty), hc.upper]

variable (hkind : (classify code == .dwell && (pause? code).any (· == clearingPause)) = false)

include hkind

theorem markOf_command : markOf (Line.command c d).body = .ends := by
  rw [Line.body, markOf_pad hc.isCommand, hc.upper, hkind]
  rfl

/-- A command that is no clearing pause is read by its command text. -/
theorem leads_command (index : Nat) (st : State) :
    Leads index st [(Line.command c d).body] (st.readCommand (index + 1)
      (trim (pad commentColumn c.toList d.toList)) code) := by
  have hmark := markOf_command (d := d) hc hkind
  rw [← readLine_command hc]
  exact Leads.single (by rw [hmark]; decide)

end Code

/-! ### Steps -/

/-- The state with more steps pending, as they are read. -/
def State.pend (st : State) (steps : List Step) : State :=
  { st with pending := st.pending ++ steps.map rereadStep }

/-- Whether moves and pauses are collected: the machine is set up, its start is known, and no
retreat is waited for. -/
structure State.Collects (st : State) : Prop where
  isSetUp : st.isSetUp = true
  noBackoff : st.awaitsBackoff = false
  started : (st.dwells.isNone && st.setupEnd.isNone) = false

theorem State.Collects.pend {st : State} (h : st.Collects) (steps : List Step) :
    (st.pend steps).Collects :=
  ⟨h.isSetUp, h.noBackoff, h.started⟩

@[simp] theorem State.pend_nil (st : State) : st.pend [] = st := by simp [State.pend]

@[simp] theorem State.pend_pend (st : State) (as bs : List Step) :
    (st.pend as).pend bs = st.pend (as ++ bs) := by simp [State.pend]

theorem State.backoff?_of_not_waiting {st : State} (h : st.awaitsBackoff = false)
    (code : List Char) : st.backoff? code = none := by
  rw [State.backoff?]
  split
  · simp [h]
  · rfl

/-- A rapid move that is neither a start nor a retreat is collected. -/
theorem readCommand_rapid {st : State} (hst : st.Collects) {text code : List Char}
    (hc : classify code = .rapid) (haxes : (axes code).isEmpty = false) (line : Nat) :
    st.readCommand line text code =
      { st with pending := st.pending ++ [State.rapidStep text code] } := by
  have hstart : st.isStart code = false := by
    rw [State.isStart, hst.started, Bool.false_and, Bool.false_and]
  have hrapid : st.readRapid text code = { st with
      pending := st.pending ++ [State.rapidStep text code], awaitsBackoff := false } := by
    rw [State.readRapid, haxes, hstart, State.backoff?_of_not_waiting hst.noBackoff]
    rfl
  obtain ⟨hset, hno, -⟩ := hst
  simp only [State.readCommand, hc, hrapid, hset, Bool.true_or]
  rw [← hno, ← hset]

theorem readCommand_dwell {st : State} (hst : st.Collects) {text code : List Char} {time : Float}
    (hc : classify code = .dwell) (hp : pause? code = some time) (line : Nat) :
    st.readCommand line text code =
      { st with pending := st.pending ++ [State.dwellStep text time] } := by
  have hdwell : st.readDwell text code = { st with
      pending := st.pending ++ [State.dwellStep text time] } := by
    rw [State.readDwell, hp]
  obtain ⟨hset, -, -⟩ := hst
  simp only [State.readCommand, hc, hdwell, hset, Bool.true_or]

/-- A line shows a step: the step is written as this line and collected from it. -/
def Shows (l : Line) (s : Step) : Prop :=
  stepLine? s = .ok (some l) ∧ '\n' ∉ l.body ∧
    ∀ index st, State.Collects st → Leads index st [l.body] (st.pend [s])

theorem isCode_rapidCommand (r : Rapid) (es : List (Axis × Float)) :
    IsCode (rapidCommand r es) (rapidCode r.mode r.system es) :=
  isCode_of_spell (toList_rapid r.mode r.system es) (List.cons_ne_nil _ _)
    (isWritten_rapidWords r.mode r.system es)

theorem isCode_pauseCommand (d : Dwell) :
    IsCode (pauseCommand d) (pauseCode (floatOf (.scalar d.time))) :=
  isCode_of_spell (toList_pause _) (List.cons_ne_nil _ _) (isWritten_pauseWords _)

theorem shows_rapid {r : Rapid} (h : IsPlainStep (.rapid r)) : ∃ l, Shows l (.rapid r) := by
  obtain ⟨⟨s, hs, hne, htrim, hline⟩, vs, hvs, hvne, hvals⟩ := h
  have hc := isCode_rapidCommand r (floatEntries vs)
  have hes : floatEntries vs ≠ [] := by
    simpa [floatEntries, ByAxis.isEmpty] using hvne
  have hclass := classify_rapidCode r.mode r.system hes
  have hentries : (axes (rapidCode r.mode r.system (floatEntries vs))).entries =
      (floatEntries vs).map fun e => (e.1, settled e.2) := by
    apply axes_rapidCode
    · intro e he
      obtain ⟨f, hf, rfl⟩ := List.mem_map.1 he
      exact (hvals f hf).plain
    · simpa [floatEntries, Function.comp_def] using vs.nodup
  have haxes : (axes (rapidCode r.mode r.system (floatEntries vs))).isEmpty = false := by
    rw [ByAxis.isEmpty, hentries]
    simpa using hes
  have hvalues : (axes (rapidCode r.mode r.system (floatEntries vs))).map Datum.float =
      vs.map rereadNumber := by
    apply ByAxis.ext
    change (axes (rapidCode r.mode r.system (floatEntries vs))).entries.map _ = _
    rw [hentries, floatEntries, List.map_map, List.map_map]
    rfl
  refine ⟨.command (rapidCommand r (floatEntries vs)) (commentOf r.description),
    stepLine?_rapid hvs hvne hvals,
    ?_, fun index st hst => ?_⟩
  · rw [hs, commentOf_text]
    exact newline_not_mem_command hc hline
  · rw [hs, commentOf_text]
    have hlead := leads_command (d := s) hc (by rw [hclass]; rfl) index st
    rw [readCommand_rapid hst hclass haxes, State.rapidStep,
      describe_pad hc.isCommand hne htrim hline, modeOf_rapidCode, systemOf_rapidCode, hvalues] at hlead
    rw [State.pend, List.map_singleton, rereadStep, hvs, hs]
    exact hlead

theorem isPlain_pos_settled {x : Float} (h : isPlain x = true) (hx : zero < x) :
    settled x = x ∧ zero ≤ x := by
  obtain ⟨negative, m, e, hparts, -, -⟩ := exists_parts_of_isPlain h
  rw [zero_lt_iff hparts] at hx
  refine ⟨?_, (zero_le_iff hparts).2 (.inl hx.1)⟩
  have hz : isZero x = false := by simp [isZero, hparts, hx.2]
  rw [settled, hz, if_neg Bool.false_ne_true]

theorem shows_dwell {d : Dwell} (h : IsPlainStep (.dwell d)) : ∃ l, Shows l (.dwell d) := by
  obtain ⟨⟨s, hs, hne, htrim, hline⟩, htime, hpos, hclear⟩ := h
  obtain ⟨hsettled, hnonneg⟩ := isPlain_pos_settled htime.plain hpos
  have hc := isCode_pauseCommand d
  have hclass := classify_pauseCode (floatOf (.scalar d.time))
  have hpause := pause?_pauseCode htime.plain hnonneg
  refine ⟨.command (pauseCommand d) (commentOf d.description), stepLine?_dwell htime hpos, ?_,
    fun index st hst => ?_⟩
  · rw [hs, commentOf_text]
    exact newline_not_mem_command hc hline
  · rw [hs, commentOf_text]
    have hlead := leads_command (d := s) hc
      (by rw [hpause, hsettled, Option.any_some, hclear, Bool.and_false]) index st
    rw [readCommand_dwell hst hclass hpause, State.dwellStep,
      describe_pad hc.isCommand hne htrim hline] at hlead
    rw [State.pend, List.map_singleton, rereadStep, hs]
    exact hlead

/-- Every plain step is shown by a line. -/
theorem exists_shows {s : Step} (h : IsPlainStep s) : ∃ l, Shows l s := by
  cases s with
  | rapid r => exact shows_rapid h
  | dwell d => exact shows_dwell h

/-- The lines of plain steps are read as these steps. -/
theorem leads_steps {steps : List Step} (h : ∀ s ∈ steps, IsPlainStep s) :
    ∃ ls : List Line, steps.mapM stepLine? = .ok (ls.map some) ∧ (∀ l ∈ ls, '\n' ∉ l.body) ∧
      ∀ index st, State.Collects st → Leads index st (ls.map Line.body) (st.pend steps) := by
  induction steps with
  | nil => exact ⟨[], rfl, by simp, fun index st _ => by simpa using Leads.nil index st⟩
  | cons s steps ih =>
      obtain ⟨l, hl, hline, hlead⟩ := exists_shows (h s List.mem_cons_self)
      obtain ⟨ls, hls, hlines, hleads⟩ := ih fun t ht => h t (List.mem_cons_of_mem s ht)
      refine ⟨l :: ls, ?_, by simpa using ⟨hline, hlines⟩, fun index st hst => ?_⟩
      · rw [List.mapM_cons, hl, hls]
        rfl
      · have := (hlead index st hst).append (hleads (index + 1) (st.pend [s]) (hst.pend [s]))
        simpa using this

/-! ### Banners -/

def headBanner (number : Nat) (a : Axis) : String :=
  "=== Probe Operation " ++ toString number ++ (": " ++ a.name ++ " Axis ===")

def preBanner (number : Nat) : String := "Pre-moves for Probe Operation " ++ toString number

def postBanner (number : Nat) : String := "Post-moves for Probe Operation " ++ toString number

theorem headBanner_eq (number : Nat) (a : Axis) :
    s!"=== Probe Operation {number}: {a.name} Axis ===" = headBanner number a := by
  simp only [toString_string, String.append_assoc]
  rfl

/-- The state after the banner of the moves before a probe. -/
def State.atBanner (st : State) : State :=
  if st.current.isSome then st.closeProbe
  else if st.dwells.isNone && st.setupEnd.isNone then
    { st with setupEnd := some st.pending.length }
  else st

theorem newline_not_mem_number (number : Nat) : '\n' ∉ (toString number).toList := by
  intro h
  rw [Nat.toString_eq_ofList_toDigits, String.toList_ofList] at h
  exact absurd (Nat.isDigit_of_mem_toDigits (by decide) (by decide) h) (by decide)

theorem newline_not_mem_parenthesised {c : List Char} (h : '\n' ∉ c) : '\n' ∉ parenthesised c := by
  rw [parenthesised]
  split
  · simp
  · simp [h]

theorem toList_headBanner (number : Nat) (a : Axis) :
    (headBanner number a).toList = "=== Probe Operation ".toList ++ (toString number).toList ++
      (": " ++ a.name ++ " Axis ===").toList :=
  String.toList_append.trans (congrArg (· ++ _) String.toList_append)

theorem toList_preBanner (number : Nat) : (preBanner number).toList =
    "Pre-moves for Probe Operation ".toList ++ (toString number).toList :=
  String.toList_append

theorem toList_postBanner (number : Nat) : (postBanner number).toList =
    "Post-moves for Probe Operation ".toList ++ (toString number).toList :=
  String.toList_append

theorem isPreMovesBanner_headBanner (number : Nat) (a : Axis) :
    isPreMovesBanner (parenthesised (headBanner number a).toList) = false := by
  rw [toList_headBanner]
  rfl

theorem isPreMovesBanner_preBanner (number : Nat) :
    isPreMovesBanner (parenthesised (preBanner number).toList) = true := by
  rw [toList_preBanner]
  rfl

theorem isPreMovesBanner_postBanner (number : Nat) :
    isPreMovesBanner (parenthesised (postBanner number).toList) = false := by
  rw [toList_postBanner]
  rfl

theorem headBanner_lines (number : Nat) (a : Axis) :
    '\n' ∉ (headBanner number a).toList ∧ (headBanner number a).toList ≠ [] := by
  have hnumber := newline_not_mem_number number
  have hname : '\n' ∉ (": " ++ a.name ++ " Axis ===").toList := by cases a <;> decide
  rw [toList_headBanner]
  simp only [List.mem_append, not_or]
  exact ⟨⟨⟨by decide, hnumber⟩, hname⟩, by simp⟩

theorem preBanner_lines (number : Nat) :
    '\n' ∉ (preBanner number).toList ∧ (preBanner number).toList ≠ [] := by
  have hnumber := newline_not_mem_number number
  rw [toList_preBanner]
  rw [List.mem_append, not_or]
  exact ⟨⟨by decide, hnumber⟩, by simp⟩

theorem postBanner_lines (number : Nat) :
    '\n' ∉ (postBanner number).toList ∧ (postBanner number).toList ≠ [] := by
  have hnumber := newline_not_mem_number number
  rw [toList_postBanner]
  rw [List.mem_append, not_or]
  exact ⟨⟨by decide, hnumber⟩, by simp⟩

/-- A banner that opens no moves is passed over. -/
theorem leads_banner {c : String} (hne : c.toList ≠ [])
    (hc : isPreMovesBanner (parenthesised c.toList) = false) (index : Nat) (st : State) :
    Leads index st [(Line.banner c).body] st := by
  have hm : markOf (Line.banner c).body ≠ .clears := by
    rw [Line.body, markOf_parenthesised hne]
    decide
  have h : Leads index st [(Line.banner c).body] (st.readLine index .free (Line.banner c).body) :=
    Leads.single hm
  rw [Line.body, readLine_parenthesised hne, State.readComment, hc] at h
  exact h

theorem leads_preBanner (number index : Nat) (st : State) :
    Leads index st [(Line.banner (preBanner number)).body] st.atBanner := by
  obtain ⟨-, hne⟩ := preBanner_lines number
  have hm : markOf (Line.banner (preBanner number)).body ≠ .clears := by
    rw [Line.body, markOf_parenthesised hne]
    decide
  have h : Leads index st [(Line.banner (preBanner number)).body]
      (st.readLine index .free (Line.banner (preBanner number)).body) := Leads.single hm
  rw [Line.body, readLine_parenthesised hne, State.readComment,
    isPreMovesBanner_preBanner number] at h
  exact h

theorem movesLines_eq {moves : List Step} {ls : List Line} (hne : moves ≠ [])
    (h : moves.mapM stepLine? = .ok (ls.map some)) (banner : String) :
    movesLines moves banner = .ok (.banner banner :: ls ++ [.blank]) := by
  rw [movesLines, List.isEmpty_eq_false_iff.2 hne, h]
  simp only [Bool.false_eq_true, if_false]
  change Except.ok _ = _
  rw [List.filterMap_map]
  simp

/-- The lines of the moves after a probe are read as these moves. -/
theorem leads_postMoves {moves : List Step} (h : ∀ s ∈ moves, IsPlainStep s) (number : Nat) :
    ∃ ls : List Line, movesLines moves (postBanner number) = .ok ls ∧ (∀ l ∈ ls, '\n' ∉ l.body) ∧
      ∀ index st, State.Collects st → Leads index st (ls.map Line.body) (st.pend moves) := by
  by_cases hne : moves = []
  · subst hne
    exact ⟨[], rfl, by simp, fun index st _ => by simpa using Leads.nil index st⟩
  · obtain ⟨ls, hls, hlines, hleads⟩ := leads_steps h
    obtain ⟨hline, hbne⟩ := postBanner_lines number
    have hb := isPreMovesBanner_postBanner number
    refine ⟨_, movesLines_eq hne hls _, ?_, fun index st hst => ?_⟩
    · simpa [Line.body, or_imp, forall_and] using
        ⟨newline_not_mem_parenthesised hline, hlines⟩
    · have := ((leads_banner hbne hb index st).append (hleads (index + 1) st hst)).append
        (Leads.blank _ _)
      simpa [Line.body] using this

def State.afterPreMoves (st : State) (moves : List Step) : State :=
  if moves.isEmpty then st else st.atBanner.pend moves

/-- The lines of the moves before a probe are read as these moves. -/
theorem leads_preMoves {moves : List Step} (h : ∀ s ∈ moves, IsPlainStep s) (number : Nat) :
    ∃ ls : List Line, movesLines moves (preBanner number) = .ok ls ∧ (∀ l ∈ ls, '\n' ∉ l.body) ∧
      ∀ index st, State.Collects st.atBanner →
        Leads index st (ls.map Line.body) (st.afterPreMoves moves) := by
  by_cases hne : moves = []
  · subst hne
    exact ⟨[], rfl, by simp, fun index st _ => Leads.nil index st⟩
  · obtain ⟨ls, hls, hlines, hleads⟩ := leads_steps h
    obtain ⟨hline, hbne⟩ := preBanner_lines number
    refine ⟨_, movesLines_eq hne hls _, ?_, fun index st hst => ?_⟩
    · simpa [Line.body, or_imp, forall_and] using
        ⟨newline_not_mem_parenthesised hline, hlines⟩
    · have := ((leads_preBanner number index st).append (hleads (index + 1) _ hst)).append
        (Leads.blank _ _)
      simpa [Line.body, State.afterPreMoves, List.isEmpty_eq_false_iff.2 hne] using this

end TouchProbe.Program
