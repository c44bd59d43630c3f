import TouchProbe.CommandLine.Session
import TouchProbe.Proofs.Headers

/-!
What the steps of a session give.  A view tells as much of a console as the rest of a run depends
on: its files, the endings of its names, the level of its journal, and, where nothing may be told,
the text for the one who watches.  A step gives a result from one view and leaves another one; such
steps are put together as the session puts them together, and a step that only reads keeps its view.
-/

namespace TouchProbe.CommandLine

variable {α β : Type}

/-! ### Views -/

/-- What is known of a console in the middle of a run. -/
structure View where
  files : FileTree
  endings : Nat → String
  level : Level
  /-- What was printed for the one who watches the run, as far as it is known. -/
  err : Option String

/-- Whether a console is as a view says, with a journal that goes to the terminal alone. -/
structure View.Of (v : View) (c : Console) : Prop where
  files : c.files = v.files
  endings : c.freshEnding = v.endings
  level : c.journal.level = v.level
  err : ∀ s ∈ v.err, c.err = s
  terminal : ∀ o ∈ c.journal.outputs, o.destination = .terminal

/-- Whether a note of a level leaves a view as it is. -/
def View.Bears (v : View) (l : Level) : Prop := v.err = none ∨ l < v.level

/-- Whether a step gives a result from every console of a view, and leaves one of another view. -/
def Gives (v : View) (x : Session α) (r : Except Fault α) (v' : View) : Prop :=
  ∀ c, v.Of c → (x.run.run c).1 = r ∧ v'.Of (x.run.run c).2

variable {v v' v'' : View} {x : Session α} {r : Except Fault α}

/-! ### One step after the other -/

theorem run_bind (x : Session α) (f : α → Session β) (c : Console) :
    (x >>= f).run.run c =
      match x.run.run c with
      | (.ok a, c') => (f a).run.run c'
      | (.error e, c') => (.error e, c') := by
  change (match x.run.run c with | (r, c') => ExceptT.bindCont f r c') = _
  obtain ⟨r, c'⟩ := x.run.run c
  cases r <;> rfl

theorem Gives.bind {a : α} {f : α → Session β} {s : Except Fault β} (hx : Gives v x (.ok a) v')
    (hf : Gives v' (f a) s v'') : Gives v (x >>= f) s v'' := by
  intro c hc
  obtain ⟨hresult, hview⟩ := hx c hc
  rw [run_bind]
  generalize x.run.run c = p at hresult hview ⊢
  obtain ⟨_, c'⟩ := p
  cases hresult
  exact hf c' hview

/-- Nothing is done after a fault. -/
theorem Gives.fail {e : Fault} (hx : Gives v x (.error e) v') (f : α → Session β) :
    Gives v (x >>= f) (.error e) v' := by
  intro c hc
  obtain ⟨hresult, hview⟩ := hx c hc
  rw [run_bind]
  generalize x.run.run c = p at hresult hview ⊢
  obtain ⟨_, c'⟩ := p
  cases hresult
  exact ⟨rfl, hview⟩

/-- Steps that keep a view give one result after the other. -/
theorem Gives.bind_same {f : α → Session β} {g : α → Except Fault β} (hx : Gives v x r v)
    (hf : ∀ a, Gives v (f a) (g a) v) : Gives v (x >>= f) (r >>= g) v := by
  cases r with
  | ok a => exact hx.bind (hf a)
  | error e => exact hx.fail f

theorem gives_pure (v : View) (a : α) : Gives v (pure a) (.ok a) v := fun _ hc => ⟨rfl, hc⟩

theorem gives_ofResult (v : View) (r : Except Fault α) : Gives v (Session.ofResult r) r v :=
  fun _ hc => ⟨rfl, hc⟩

/-- What becomes of a result where faults of some families are results. -/
def caught (families : List Fault.Family) : Except Fault α → Except Fault (Except Fault α)
  | .ok a => .ok (.ok a)
  | .error f => if families.contains f.family then .ok (.error f) else .error f

theorem run_attempt (families : List Fault.Family) (x : Session α) (c : Console) :
    (Session.attempt families x).run.run c =
      (caught families (x.run.run c).1, (x.run.run c).2) := by
  change (match x.run.run c with | (r, c') => (match r with
    | .ok a => return .ok (.ok a)
    | .error f => return if families.contains f.family then .ok (.error f) else .error f :
      StateM Console (Except Fault (Except Fault α))) c') = _
  obtain ⟨r, c'⟩ := x.run.run c
  cases r <;> rfl

theorem Gives.attempt (hx : Gives v x r v') (families : List Fault.Family) :
    Gives v (Session.attempt families x) (caught families r) v' := by
  intro c hc
  obtain ⟨hresult, hview⟩ := hx c hc
  rw [run_attempt, hresult]
  exact ⟨rfl, hview⟩

/-- A loop whose steps all keep a view keeps it. -/
theorem gives_forIn {γ : Type} {l : List γ} {f : γ → PUnit → Session (ForInStep PUnit)}
    (hf : ∀ a ∈ l, Gives v (f a PUnit.unit) (.ok (.yield PUnit.unit)) v) :
    Gives v (forIn l PUnit.unit f) (.ok PUnit.unit) v := by
  induction l with
  | nil => exact gives_pure v _
  | cons a l ih =>
      rw [List.forall_mem_cons] at hf
      rw [List.forIn_cons]
      exact hf.1.bind (ih hf.2)

/-! ### Files, texts and notes -/

theorem gives_files (v : View) : Gives v Session.files (.ok v.files) v := by
  intro c hc
  refine ⟨?_, hc⟩
  change Except.ok c.files = _
  rw [hc.files]

theorem gives_changeFiles (v : View) (f : FileTree → FileTree.Outcome) :
    Gives v (Session.changeFiles f) (f v.files).2 { v with files := (f v.files).1 } := by
  intro c hc
  rw [← hc.files]
  exact ⟨rfl, rfl, hc.endings, hc.level, hc.err, hc.terminal⟩

theorem gives_print (v : View) (s : String) : Gives v (Session.print s) (.ok ()) v :=
  fun _ hc => ⟨rfl, hc.files, hc.endings, hc.level, hc.err, hc.terminal⟩

theorem gives_pushField (v : View) (name value : String) :
    Gives v (Session.pushField name value) (.ok ()) v :=
  fun _ hc => ⟨rfl, hc.files, hc.endings, hc.level, hc.err, hc.terminal⟩

theorem View.Of.tell (h : v.err = none) {c : Console} (hc : v.Of c) (s : String) : v.Of (c.tell s) where
  files := hc.files
  endings := hc.endings
  level := hc.level
  err := by simp [h]
  terminal := hc.terminal

theorem gives_tellLine (h : v.err = none) (s : String) : Gives v (Session.tellLine s) (.ok ()) v :=
  fun _ hc => ⟨rfl, hc.tell h _⟩

theorem View.Of.deliver (h : v.err = none) {lines : List (Destination × String)}
    (hlines : ∀ line ∈ lines, line.1 = .terminal) {c : Console} (hc : v.Of c) :
    v.Of (lines.foldl Console.deliver c) := by
  induction lines generalizing c with
  | nil => exact hc
  | cons line lines ih =>
      rw [List.forall_mem_cons] at hlines
      apply ih hlines.2
      rw [Console.deliver, hlines.1]
      exact hc.tell h _

theorem gives_note {l : Level} (h : v.Bears l) (text : String) :
    Gives v (Session.note l text) (.ok ()) v := by
  refine fun c hc => ⟨rfl, ?_⟩
  change v.Of (c.note _)
  rw [Console.note, Journal.lines]
  split
  · exact hc
  · next hpasses =>
    -- A note that is written is told, so nothing is known of the text for the one who watches.
    refine hc.deliver (h.resolve_right fun hlt => hpasses ?_) fun line hline => ?_
    · rw [← hc.level] at hlt
      simp [Journal.passes, not_le.2 hlt]
    · obtain ⟨o, ho, hwritten⟩ := List.mem_filterMap.1 hline
      split at hwritten
      · rw [← Option.some.inj hwritten]
        exact hc.terminal o ho
      · cases hwritten

theorem View.Bears.mono {l m : Level} (h : v.Bears l) (hle : m ≤ l) : v.Bears m :=
  h.imp_right hle.trans_lt

theorem View.Bears.debug (h : v.Bears .info) : v.Bears .debug := h.mono (by decide)

theorem View.Bears.info (h : v.Bears .warning) : v.Bears .info := h.mono (by decide)

/-! ### Steps of the library -/

open Session

theorem mapError_bind {ε ε' : Type} (g : ε → ε') (x : Except ε α) (f : α → Except ε β) :
    (x >>= f).mapError g = x.mapError g >>= fun a => (f a).mapError g := by
  cases x <;> rfl

theorem gives_loadConfigAt (h : v.Bears .warning) (a : Address) :
    Gives v (loadConfigAt a) (Config.load v.files a) v := by
  refine (gives_files v).bind ?_
  rw [Config.load]
  dsimp only
  split
  · exact (gives_ofResult v _).fail _
  · refine (gives_note h.info _).bind ?_
    rw [← bind_assoc]
    refine (gives_ofResult v _).bind_same fun d => ?_
    rw [Defaults.check, mapError_bind]
    refine (gives_ofResult v _).bind_same fun _ => ?_
    have hrest : Gives v (do
        let config ← ofResult (d.checkOthers.mapError Defaults.rangeFault)
        note .info "Configuration loaded successfully"
        return config) (d.checkOthers.mapError Defaults.rangeFault) v := by
      cases d.checkOthers.mapError Defaults.rangeFault with
      | ok config =>
          exact (gives_ofResult v _).bind ((gives_note h.info _).bind (gives_pure v config))
      | error f => exact (gives_ofResult v _).fail _
    split
    · exact (gives_note h _).bind hrest
    · exact hrest

def configOf (t : FileTree) : Datum → Except Fault Config
  | .text path => Config.load t (Address.parse path)
  | .null => .ok .packaged
  | _ => .error .wrongKind

theorem gives_packaged (h : v.Bears .info) : Gives v (loadConfig .null) (.ok .packaged) v :=
  (gives_note h _).bind ((gives_note h _).bind (gives_pure v _))

theorem gives_loadConfig (h : v.Bears .warning) (path : Datum) :
    Gives v (loadConfig path) (configOf v.files path) v := by
  cases path with
  | scalar s =>
      cases s with
      | text path => exact gives_loadConfigAt h _
      | null => exact gives_packaged h.info
      | _ => exact gives_ofResult v _
  | _ => exact gives_ofResult v _

theorem gives_loadSequence (h : v.Bears .info) (path : String) :
    Gives v (loadSequence path) (v.files.loadSequence (Address.parse path)) v := by
  refine (gives_files v).bind ?_
  cases v.files.loadSequence (Address.parse path) with
  | ok s => exact (gives_ofResult v _).bind ((gives_note h _).bind (gives_pure v s))
  | error f => exact (gives_ofResult v _).fail _

theorem gives_saveSequence (h : v.Bears .info) (path : String) (operations : List Probe)
    (s : Settings) :
    Gives v (saveSequence path operations s)
      (v.files.saveSequence (Address.parse path) operations s).2
      { v with files := (v.files.saveSequence (Address.parse path) operations s).1 } := by
  have hsave := gives_changeFiles v fun t => t.saveSequence (Address.parse path) operations s
  have hkept : View.Bears
      { v with files := (v.files.saveSequence (Address.parse path) operations s).1 } .info := h
  cases hresult : (v.files.saveSequence (Address.parse path) operations s).2 with
  | ok u =>
      rw [hresult] at hsave
      exact hsave.bind (gives_note hkept _)
  | error f =>
      rw [hresult] at hsave
      exact hsave.fail _

theorem gives_writeProgram (h : v.Bears .info) (operations : List Probe) (s : Settings) :
    Gives v (writeProgram operations s) (Program.write operations s) v := by
  rw [writeProgram]
  cases Program.write operations s with
  | ok text => exact (gives_ofResult v _).bind ((gives_note h.debug _).bind (gives_pure v text))
  | error f => exact (gives_ofResult v _).fail _

theorem gives_plan (h : v.Bears .info) (operations : List Probe) (start : Position) :
    Gives v (plan operations start) (Path.plan operations start Path.usualRapidFeed) v := by
  rw [plan]
  cases Path.plan operations start Path.usualRapidFeed with
  | ok path => exact (gives_ofResult v _).bind ((gives_note h.debug _).bind (gives_pure v path))
  | error f => exact (gives_ofResult v _).fail _

theorem gives_applyReading (h : v.Bears .info) (s : Settings) (reading : Program.Reading) :
    Gives v (applyReading s reading) (.ok (Edit.applyReading s reading)) v :=
  (gives_note h _).bind (gives_pure v _)

/-- A reading whose operations and steps have names. -/
def named (endings : Nat → String) (reading : Program.Reading) : Program.Reading :=
  { reading with probes := Naming.nameProbes endings 0 reading.probes }

theorem gives_readText (h : v.Bears .info) {text : String}
    (hquiet : (Program.read text).problems = [] ∨ v.err = none) :
    Gives v (readText text) (.ok (named v.endings (Program.read text))) v := by
  refine (gives_forIn fun p hp => ?_).bind ((gives_note h _).bind ?_)
  · rcases hquiet with hnone | herr
    · rw [hnone] at hp
      cases hp
    · exact (gives_note (.inl herr) _).bind (gives_pure v _)
  intro c hc
  rw [← hc.endings]
  exact ⟨rfl, hc⟩

theorem gives_readProgram (h : v.Bears .info) (path : String)
    (hquiet : ∀ text, v.files.programText (Address.parse path) = .ok text →
      (Program.read text).problems = [] ∨ v.err = none) :
    Gives v (readProgram path)
      ((v.files.programText (Address.parse path)).map fun text =>
        named v.endings (Program.read text)) v := by
  refine (gives_files v).bind ?_
  dsimp only
  split
  · next hnot =>
    have hmissing : v.files.programText (Address.parse path) =
        .error (.missingFile "G-code file" (Address.parse path).text) := by
      rw [FileTree.programText]
      rw [FileTree.has] at hnot
      cases hfound : v.files.find (Address.parse path) with
      | file bytes | folder => simp [hfound] at hnot
      | missing | blocked => rfl
    rw [hmissing]
    exact (gives_ofResult v _).fail _
  · refine (gives_note h _).bind ?_
    cases htext : v.files.programText (Address.parse path) with
    | ok text => exact (gives_ofResult v _).bind (gives_readText h (hquiet text htext))
    | error f => exact (gives_ofResult v _).fail _

/-! ### The journal -/

/-- The journal of a program is set up if its level can be read, and goes to the terminal alone. -/
theorem of_setUpJournal (program : String) {level : Datum} {l : Level}
    (h : Level.ofDatum level = .ok l) (c : Console) :
    ((setUpJournal program level).run.run c).1 = .ok () ∧
      View.Of ⟨c.files, c.freshEnding, l, some c.err⟩ ((setUpJournal program level).run.run c).2 := by
  have hrun : (setUpJournal program level).run.run c =
      (.ok (), { c with journal := {
        level := l
        context := c.journal.context.setAll [("app", .text program)]
        outputs := [⟨.terminal, .human, c.isTerminal⟩] } }) := by
    change ((c.setUp _).2, (c.setUp _).1) = _
    rw [Console.setUp, h]
    rfl
  rw [hrun]
  exact ⟨rfl, rfl, rfl, rfl, by simp, by simp⟩

theorem run_setUpJournal_of_error (program : String) {level : Datum} {f : Fault}
    (h : Level.ofDatum level = .error f) (c : Console) :
    (setUpJournal program level).run.run c = (.error f, c) := by
  change ((c.setUp _).2, (c.setUp _).1) = _
  rw [Console.setUp, h]

theorem run_eq {tool : Tool} {args : List String} {o : Options}
    (h : readArguments tool.interface args = .ok o) :
    tool.run args = (do
      setUpJournal tool.interface.program o.logLevel
      tool.work o) := by
  rw [Tool.run, h]

/-- A run gives what the work of the program gives once its journal is set up. -/
theorem run_of_gives {tool : Tool} {args : List String} {o : Options}
    (h : readArguments tool.interface args = .ok o) {l : Level}
    (hlevel : Level.ofDatum o.logLevel = .ok l) {c : Console} {err : Option String}
    (herr : ∀ s ∈ err, c.err = s) {r : Except Fault Nat}
    (hwork : Gives ⟨c.files, c.freshEnding, l, err⟩ (tool.work o) r v) :
    ((tool.run args).run.run c).1 = r ∧ v.Of ((tool.run args).run.run c).2 := by
  obtain ⟨hresult, hview⟩ := of_setUpJournal tool.interface.program hlevel c
  rw [run_eq h, run_bind]
  generalize (setUpJournal tool.interface.program o.logLevel).run.run c = p at hresult hview ⊢
  obtain ⟨_, c'⟩ := p
  cases hresult
  refine hwork c' { hview with err := fun s hs => ?_ }
  rw [← herr s hs]
  exact hview.err c.err rfl

end TouchProbe.CommandLine
