import TouchProbe.CommandLine.Generate
import TouchProbe.CommandLine.Import
import TouchProbe.Proofs.ImportedSequences
import TouchProbe.Proofs.KeptFiles
import TouchProbe.Proofs.Sessions

/-!
How the programs of the command line end.  A run goes through stages, each of which can fail; a
fault of a family that is caught there ends the run with the status one, and any other one ends it
with the fault.  A run ends as its documentation says just when no fault gets past the stage where
it occurs, and unless its status is zero it leaves all files as they were.
-/

namespace TouchProbe.CommandLine

open Session

/-! ### What is documented -/

inductive Stage where
  | journal
  | config
  | input
  | write
  | summary
  deriving DecidableEq

/-- What there is to know of the runs of a program: where they fail and why, whether they refuse
what they have read, and the families of faults that are caught at a stage. -/
structure Manual where
  tool : Tool
  failure? : FileTree → (Nat → String) → Options → Option (Stage × Fault)
  refuses : FileTree → Options → Prop
  caught : Stage → List Fault.Family

namespace Manual

variable (m : Manual) (t : FileTree) (endings : Nat → String) (o : Options)

/-- Whether what a run reads cannot be used, or what it writes cannot be written. -/
def Fails : Prop :=
  ∃ stage ∈ [.config, .input, .write], ∃ f, m.failure? t endings o = some (stage, f)

/-- Whether the fault of a run is caught, if it has one. -/
def Covers : Prop := ∀ stage f, m.failure? t endings o = some (stage, f) → f.family ∈ m.caught stage

/-- Whether an exit status is the documented one, and all files are kept if it is not zero. -/
structure Describes (status : Nat) (t' : FileTree) : Prop where
  refused : status = 2 ↔ m.refuses t o
  failed : status = 1 ↔ m.Fails t endings o
  done : status = 0 ↔ ¬ m.refuses t o ∧ ¬ m.Fails t endings o
  kept : status ≠ 0 → t.KeepsFiles t'

/-- How runs end, with the files after them. -/
inductive Ends : Except Fault Nat → FileTree → Prop
  | failed {stage f t'} (hfails : m.failure? t endings o = some (stage, f))
      (hcaught : f.family ∈ m.caught stage) (hkept : t.KeepsFiles t') : Ends (.ok 1) t'
  | escaped {stage f t'} (hfails : m.failure? t endings o = some (stage, f))
      (huncaught : f.family ∉ m.caught stage) (hkept : stage ≠ .summary → t.KeepsFiles t') :
      Ends (.error f) t'
  | refused {t'} (hnone : m.failure? t endings o = none) (hrefuses : m.refuses t o)
      (hkept : t.KeepsFiles t') : Ends (.ok 2) t'
  | done {t'} (hnone : m.failure? t endings o = none) (hrefuses : ¬ m.refuses t o) : Ends (.ok 0) t'

/-- Whether a run fails first of all where its journal cannot be set up, which nothing catches,
faults are caught where it reads and writes alone, and a run that fails there refuses nothing. -/
structure IsClear : Prop where
  journal : ∀ {t endings o f}, Level.ofDatum o.logLevel = .error f →
    m.failure? t endings o = some (.journal, f)
  reads : ∀ stage, m.caught stage ≠ [] → stage ∈ [.config, .input, .write]
  exclusive : ∀ {t endings o}, m.Fails t endings o → ¬ m.refuses t o

variable {m t endings o}

/-- A run ends as it is documented just when its fault is caught, if it has one, and else with that
fault. -/
theorem Ends.describes_iff {r : Except Fault Nat} {t' : FileTree} (hclear : m.IsClear)
    (h : m.Ends t endings o r t') :
    ((∃ n, r = .ok n ∧ m.Describes t endings o n t') ↔ m.Covers t endings o) ∧
      (¬ m.Covers t endings o → ∃ f, r = .error f) ∧
      ((∀ f, m.failure? t endings o ≠ some (.summary, f)) → r ≠ .ok 0 → t.KeepsFiles t') := by
  cases h with
  | @failed stage f _ hfails hcaught hkept =>
      have hfailed : m.Fails t endings o :=
        ⟨stage, hclear.reads stage (List.ne_nil_of_mem hcaught), f, hfails⟩
      have hrefuses : ¬ m.refuses t o := hclear.exclusive hfailed
      have hcovers : m.Covers t endings o := by
        intro stage' f' hfails'
        obtain ⟨rfl, rfl⟩ := Prod.mk.inj (Option.some.inj (hfails.symm.trans hfails'))
        exact hcaught
      refine ⟨iff_of_true ⟨1, rfl, ?_⟩ hcovers, fun hnot => absurd hcovers hnot, fun _ _ => hkept⟩
      exact ⟨by simpa using hrefuses, by simpa using hfailed, by simp [hfailed], fun _ => hkept⟩
  | @escaped stage f _ hfails huncaught hkept =>
      have hnot : ¬ m.Covers t endings o := fun hcovers => huncaught (hcovers stage f hfails)
      refine ⟨iff_of_false (by simp) hnot, fun _ => ⟨f, rfl⟩, fun hsummary _ => hkept ?_⟩
      rintro rfl
      exact hsummary f hfails
  | refused hnone hrefuses hkept =>
      have hcovers : m.Covers t endings o := fun stage f hfails => by simp [hnone] at hfails
      have hfailed : ¬ m.Fails t endings o := fun h => hclear.exclusive h hrefuses
      refine ⟨iff_of_true ⟨2, rfl, ?_⟩ hcovers, fun hnot => absurd hcovers hnot, fun _ _ => hkept⟩
      exact ⟨by simpa using hrefuses, by simpa using hfailed, by simp [hrefuses], fun _ => hkept⟩
  | done hnone hrefuses =>
      have hcovers : m.Covers t endings o := fun stage f hfails => by simp [hnone] at hfails
      have hfailed : ¬ m.Fails t endings o := fun ⟨stage, _, f, hfails⟩ => by simp [hnone] at hfails
      refine ⟨iff_of_true ⟨0, rfl, ?_⟩ hcovers, fun hnot => absurd hcovers hnot,
        fun _ hne => absurd rfl hne⟩
      exact ⟨by simpa using hrefuses, by simpa using hfailed, by simp [hrefuses, hfailed],
        fun hne => absurd rfl hne⟩

end Manual

/-! ### Stages -/

section Stages

variable {α β : Type} {v v₁ : View} {x : Session α} {r : Except Fault α}

/-- Whether a step gives, from every console of a view, a result and a view with a property. -/
def Reaches (v : View) (x : Session β) (P : Except Fault β → View → Prop) : Prop :=
  ∃ r v', Gives v x r v' ∧ P r v'

variable {P : Except Fault β → View → Prop}

theorem Gives.bind_reaches {a : α} (hx : Gives v x (.ok a) v₁) {next : α → Session β}
    (hnext : Reaches v₁ (next a) P) : Reaches v (x >>= next) P := by
  obtain ⟨s, v', hnext, hP⟩ := hnext
  exact ⟨s, v', hx.bind hnext, hP⟩

theorem caught_of_mem {families : List Fault.Family} {f : Fault} (h : f.family ∈ families) :
    caught families (.error f : Except Fault α) = .ok (.error f) :=
  if_pos (List.contains_iff_mem.2 h)

theorem caught_of_not_mem {families : List Fault.Family} {f : Fault} (h : f.family ∉ families) :
    caught families (.error f : Except Fault α) = .error f :=
  if_neg fun hcontains => h (List.contains_iff_mem.1 hcontains)

/-- A change that is tried; the one after it tells whether it went well. -/
theorem Gives.tried (hx : Gives v x r v₁) (families : List Fault.Family)
    {next : Except Fault α → Session Bool}
    (hfailed : ∀ f, r = .error f → Gives v₁ (next (.error f)) (.ok false) v₁)
    (hdone : ∀ a, r = .ok a → Gives v₁ (next (.ok a)) (.ok true) v₁) :
    Gives v (Session.attempt families x >>= next) ((caught families r).map Except.isOk) v₁ := by
  have hattempt := hx.attempt families
  cases r with
  | ok a => exact Gives.bind hattempt (hdone a rfl)
  | error f =>
      by_cases hmem : f.family ∈ families
      · rw [caught_of_mem hmem] at hattempt ⊢
        exact hattempt.bind (hfailed f rfl)
      · rw [caught_of_not_mem hmem] at hattempt ⊢
        exact hattempt.fail next

theorem gives_writeFailed (h : v.err = none) (message : String) :
    Gives v (do note .error "Write failed"; tellLine message; return false) (.ok false) v :=
  (gives_note (.inl h) _).bind ((gives_tellLine h _).bind (gives_pure v false))

/-- The change of the file that an option gives, if it gives one. -/
def changed (t : FileTree) (output : Datum) (change : Address → FileTree → FileTree.Outcome) :
    FileTree.Outcome :=
  match givenPath? output with
  | none => (t, .ok ())
  | some path => change (Address.parse path) t

theorem sparesFiles_changed (t : FileTree) (output : Datum)
    {change : Address → FileTree → FileTree.Outcome}
    (h : ∀ a, t.SparesFiles (change a t)) : t.SparesFiles (changed t output change) := by
  rw [changed]
  split
  · exact fun f hf => nomatch hf
  · exact h _

theorem gives_told (h : v.err = none) (message : String) :
    Gives v (do tellLine message; return 1) (.ok 1) v :=
  (gives_tellLine h message).bind (gives_pure v 1)

variable {m : Manual} {o : Options}

/-- A run that fails before it writes ends with the status one or with its fault. -/
theorem reaches_failed {stage : Stage} {f : Fault}
    (hfails : m.failure? v.files v.endings o = some (stage, f)) (hx : Gives v x (.error f) v)
    {families : List Fault.Family} (hcaught : m.caught stage = families)
    {next : Except Fault α → Session Nat} (hnext : Gives v (next (.error f)) (.ok 1) v) :
    Reaches v (Session.attempt families x >>= next)
      fun r v' => m.Ends v.files v.endings o r v'.files := by
  have hkept := FileTree.KeepsFiles.refl v.files
  have hattempt := hx.attempt families
  by_cases hmem : f.family ∈ families
  · rw [caught_of_mem hmem] at hattempt
    exact ⟨.ok 1, v, hattempt.bind hnext, .failed hfails (hcaught ▸ hmem) hkept⟩
  · rw [caught_of_not_mem hmem] at hattempt
    exact ⟨.error f, v, hattempt.fail next, .escaped hfails (hcaught ▸ hmem) fun _ => hkept⟩

/-- A run that writes a file goes on, or ends with the status one or with the fault of the
writing. -/
theorem reaches_written {w : FileTree.Outcome} {x : Session Bool}
    (hx : Gives v x ((caught [.notWritten] w.2).map Except.isOk) { v with files := w.1 })
    (hspared : v.files.SparesFiles w) (hcaught : m.caught .write = [.notWritten])
    (hfails : ∀ f, w.2 = .error f → m.failure? v.files v.endings o = some (.write, f))
    {next : Session Nat}
    (hnext : w.2 = .ok () → Reaches { v with files := w.1 } next
      fun r v' => m.Ends v.files v.endings o r v'.files) :
    Reaches v (do
        if !(← x) then return 1
        next)
      fun r v' => m.Ends v.files v.endings o r v'.files := by
  cases hw : w.2 with
  | ok u =>
      rw [hw] at hx
      exact Gives.bind_reaches hx (hnext hw)
  | error f =>
      rw [hw] at hx
      by_cases hmem : f.family ∈ [Fault.Family.notWritten]
      · rw [caught_of_mem hmem] at hx
        exact Gives.bind_reaches hx
          ⟨.ok 1, _, gives_pure _ 1, .failed (hfails f hw) (hcaught ▸ hmem) (hspared f hw)⟩
      · rw [caught_of_not_mem hmem] at hx
        exact ⟨.error f, _, hx.fail _,
          .escaped (hfails f hw) (hcaught ▸ hmem) fun _ => hspared f hw⟩

end Stages

/-! ### Writing a program -/

namespace Generate

/-- The defaults that a run tests, if it tests some. -/
def tested (t : FileTree) (o : Options) : Except Fault (Option Config) :=
  if o.config.isTruthy then some <$> configOf t o.config else .ok none

def written (t : FileTree) (o : Options) (text : String) : FileTree.Outcome :=
  changed t o.output fun a t => t.writeText a .utf8 text

/-- Where a run fails, and why. -/
def failure? (t : FileTree) (_ : Nat → String) (o : Options) : Option (Stage × Fault) :=
  match Level.ofDatum o.logLevel, tested t o, t.loadSequence (Address.parse o.input) with
  | .error f, _, _ => some (.journal, f)
  | .ok _, .error f, _ => some (.config, f)
  | .ok _, .ok _, .error f => some (.input, f)
  | .ok _, .ok _, .ok s =>
    -- The program of a sequence that was loaded is always there.
    match Program.write s.operations s with
    | .error f => some (.write, f)
    | .ok text =>
      match (written t o text).2 with
      | .error f => some (.write, f)
      | .ok () =>
        match Path.plan s.operations s.start Path.usualRapidFeed with
        | .error f => if o.switch then some (.summary, f) else none
        | .ok _ => none

def manual : Manual where
  tool := tool
  failure? := failure?
  refuses _ _ := False
  caught
    | .config | .input => .badConfig :: .missingFile :: valueFamilies
    | .write => [.notWritten]
    | .journal | .summary => []

theorem isClear_manual : manual.IsClear where
  journal h := by simp [manual, failure?, h]
  reads stage h := by cases stage <;> simp [manual] at h ⊢
  exclusive _ := id

theorem gives_load {v : View} (h : v.Bears .warning) (o : Options) :
    Gives v (load o)
      (tested v.files o >>= fun _ => v.files.loadSequence (Address.parse o.input)) v := by
  have hsequence := gives_loadSequence h.info o.input
  rw [load, tested]
  split
  · have hconfig := gives_loadConfig h o.config
    cases hresult : configOf v.files o.config with
    | ok config =>
        rw [hresult] at hconfig
        exact hconfig.bind hsequence
    | error f =>
        rw [hresult] at hconfig
        exact hconfig.fail _
  · exact hsequence

/-- The file of a program is changed, or that it cannot be is told; without a file it is printed. -/
theorem gives_deliver {v : View} (h : v.Bears .info) (o : Options) (text : String)
    (hquiet : v.err = none ∨ (written v.files o text).2 = .ok ()) :
    Gives v (deliver o.output text)
      ((caught [.notWritten] (written v.files o text).2).map Except.isOk)
      { v with files := (written v.files o text).1 } := by
  rw [deliver]
  cases hpath : givenPath? o.output with
  | none =>
      rw [written, changed, hpath]
      exact (gives_print v text).bind (gives_pure v true)
  | some path =>
      rw [written, changed, hpath] at hquiet ⊢
      refine (gives_changeFiles v fun t => t.writeText (Address.parse path) .utf8 text).tried _
        (fun f hf => ?_) fun _ _ => ?_
      · have herr : v.err = none := hquiet.resolve_right fun hok => by simp [hok] at hf
        apply gives_writeFailed
        exact herr
      · refine Gives.bind (gives_note ?_ _) (gives_pure _ true)
        exact h

/-- The program of a sequence that was loaded is there. -/
theorem exists_write_of_loadSequence {t : FileTree} {a : Address} {s : Settings}
    (h : t.loadSequence a = .ok s) : ∃ text, Program.write s.operations s = .ok text := by
  rw [FileTree.loadSequence] at h
  split at h
  · cases h
  · split at h
    · next d hd =>
      obtain ⟨f, hf, rfl⟩ := Document.toSequence_eq_ok.1 h
      obtain ⟨hsettings, hops⟩ := Document.isStorable_sequence hf
      exact Program.exists_write_of_isStorable hops hsettings
    · cases h
    · cases h

theorem gives_summarize {v : View} (h : v.err = none) (s : Settings) :
    Gives v (summarize s)
      ((Path.plan s.operations s.start Path.usualRapidFeed).map fun _ => ()) v := by
  have hplan := gives_plan (.inl h) s.operations s.start
  rw [summarize]
  cases hpath : Path.plan s.operations s.start Path.usualRapidFeed with
  | ok path =>
      rw [hpath] at hplan
      refine hplan.bind ?_
      exact gives_tellLine h _
  | error f =>
      rw [hpath] at hplan
      exact hplan.fail _

theorem reaches_summary {v : View} (hv : v.err = none) {t : FileTree} {o : Options} {s : Settings}
    (hfails : failure? t v.endings o =
      match Path.plan s.operations s.start Path.usualRapidFeed with
      | .error f => if o.switch then some (.summary, f) else none
      | .ok _ => none) :
    Reaches v (do
        if o.switch then summarize s
        return 0)
      fun r v' => manual.Ends t v.endings o r v'.files := by
  have hsummary := gives_summarize hv s
  dsimp only
  split
  · next hswitch =>
    cases hpath : Path.plan s.operations s.start Path.usualRapidFeed with
    | ok path =>
        rw [hpath] at hsummary hfails
        exact ⟨.ok 0, v, Gives.bind hsummary (gives_pure v 0), .done hfails id⟩
    | error f =>
        rw [hpath] at hsummary hfails
        dsimp only at hfails
        rw [if_pos hswitch] at hfails
        exact ⟨.error f, v, hsummary.fail _, .escaped hfails (by simp [manual]) (absurd rfl)⟩
  · next hswitch =>
    have hnone : failure? t v.endings o = none := by
      rw [hfails]
      split
      · exact if_neg hswitch
      · rfl
    exact ⟨.ok 0, v, gives_pure v 0, .done hnone id⟩

theorem reaches_work {v : View} (hv : v.err = none) (o : Options)
    (hlevel : Level.ofDatum o.logLevel = .ok v.level) :
    Reaches v (work o) fun r v' => manual.Ends v.files v.endings o r v'.files := by
  have hb : v.Bears .info := .inl hv
  have hload := gives_load (.inl hv) o
  have hrefused (f : Fault) : Gives v (do
      note .debug "Failed to load inputs"
      tellLine s!"Error: {f.message}"
      return 1) (.ok 1) v :=
    (gives_note (.inl hv) _).bind (gives_told hv _)
  cases htested : tested v.files o with
  | error f =>
      rw [htested] at hload
      have hfails : failure? v.files v.endings o = some (.config, f) := by
        simp [failure?, hlevel, htested]
      exact reaches_failed (m := manual) hfails hload rfl (hrefused f)
  | ok tests =>
      rw [htested] at hload
      change Gives v (load o) (v.files.loadSequence (Address.parse o.input)) v at hload
      cases hinput : v.files.loadSequence (Address.parse o.input) with
      | error f =>
          rw [hinput] at hload
          have hfails : failure? v.files v.endings o = some (.input, f) := by
            simp [failure?, hlevel, htested, hinput]
          exact reaches_failed (m := manual) hfails hload rfl (hrefused f)
      | ok s =>
          rw [hinput] at hload
          obtain ⟨text, htext⟩ := exists_write_of_loadSequence hinput
          have hwrite := gives_writeProgram hb s.operations s
          rw [htext] at hwrite
          refine Gives.bind_reaches (hload.attempt _) (Gives.bind_reaches hwrite ?_)
          refine reaches_written (m := manual) (gives_deliver hb o text (.inl hv))
            (sparesFiles_changed v.files o.output fun a =>
              FileTree.sparesFiles_writeText v.files a .utf8 text) rfl (fun f hw => ?_) fun hw => ?_
          · change failure? v.files v.endings o = some (.write, f)
            simp [failure?, hlevel, htested, hinput, htext, hw]
          · refine reaches_summary ?_ ?_
            · exact hv
            · simp [failure?, hlevel, htested, hinput, htext, hw]

end Generate

/-! ### Reading a program -/

namespace Import

/-- The settings of defaults with what was read from the text of a program. -/
def imported (endings : Nat → String) (config : Config) (text : String) : Settings :=
  Edit.applyReading config.settings (named endings (Program.read text))

def written (t : FileTree) (endings : Nat → String) (o : Options) (config : Config) (text : String) :
    FileTree.Outcome :=
  changed t o.output fun a t =>
    t.saveSequence a (imported endings config text).operations (imported endings config text)

/-- Whether a program has errors and must have none. -/
def isRefused (o : Options) (text : String) : Bool := o.switch && !(Program.read text).problems.isEmpty

def failure? (t : FileTree) (endings : Nat → String) (o : Options) : Option (Stage × Fault) :=
  match Level.ofDatum o.logLevel, configOf t o.config, t.programText (Address.parse o.input) with
  | .error f, _, _ => some (.journal, f)
  | .ok _, .error f, _ => some (.config, f)
  | .ok _, .ok _, .error f => some (.input, f)
  | .ok _, .ok config, .ok text =>
    if isRefused o text then none
    else
      match (written t endings o config text).2 with
      | .error f => some (.write, f)
      | .ok () => none

def manual : Manual where
  tool := tool
  failure? := failure?
  refuses t o := ∃ config text, configOf t o.config = .ok config ∧
    t.programText (Address.parse o.input) = .ok text ∧ o.switch = true ∧
      (Program.read text).problems ≠ []
  caught
    | .config => [.badConfig, .missingFile]
    | .input => [.missingFile, .undecodable]
    | .write => [.notWritten]
    | .journal | .summary => []

theorem isClear_manual : manual.IsClear where
  journal h := by simp [manual, failure?, h]
  reads stage h := by cases stage <;> simp [manual] at h ⊢
  exclusive := by
    rintro t endings o ⟨stage, hstage, f, hfails⟩ ⟨config, text, hconfig, htext, hswitch, hproblems⟩
    have hrefused : isRefused o text = true := by simp [isRefused, hswitch, hproblems]
    change failure? t endings o = _ at hfails
    rw [failure?, hconfig, htext] at hfails
    cases hlevel : Level.ofDatum o.logLevel with
    | error g =>
        rw [hlevel] at hfails
        obtain ⟨rfl, -⟩ := Prod.mk.inj (Option.some.inj hfails)
        simp at hstage
    | ok l => simp [hlevel, hrefused] at hfails

theorem exists_probeLine (number : Nat) {p : Probe} (h : p.IsStorable) :
    ∃ line, probeLine number p = .ok line := by
  have hdistance : p.distance.toFloat = .ok (Program.floatOf (.scalar p.distance)) := h.distance.float
  obtain ⟨b, hb⟩ : ∃ b, p.direction.isNegative = .ok b := by
    rcases h.direction with hd | hd <;> rw [hd] <;> exact ⟨_, rfl⟩
  rw [probeLine, hb, hdistance, h.feedRate.float]
  exact ⟨_, rfl⟩

/-- The listing of what was read never fails. -/
theorem gives_list (v : View) {operations : List Probe} (h : ∀ p ∈ operations, p.IsStorable)
    (reading : Program.Reading) : Gives v (list operations reading) (.ok ()) v := by
  refine (gives_print v _).bind ?_
  refine Gives.bind (gives_forIn fun p hp => ?_) (gives_pure v _)
  obtain ⟨line, hline⟩ := exists_probeLine (p.2 + 1) (h p.1 (List.fst_mem_of_mem_zipIdx hp))
  rw [hline]
  exact (gives_ofResult v _).bind ((gives_print v _).bind (gives_pure v _))

/-- The file of a sequence is changed, or that it cannot be is told. -/
theorem gives_save {v : View} (h : v.Bears .info) (output : Datum) (s : Settings)
    (hquiet : v.err = none ∨
      (changed v.files output fun a t => t.saveSequence a s.operations s).2 = .ok ()) :
    Gives v (save output s)
      ((caught [.notWritten]
        (changed v.files output fun a t => t.saveSequence a s.operations s).2).map Except.isOk)
      { v with files := (changed v.files output fun a t => t.saveSequence a s.operations s).1 } := by
  rw [save]
  cases hpath : givenPath? output with
  | none =>
      rw [changed, hpath]
      exact gives_pure v true
  | some path =>
      rw [changed, hpath] at hquiet ⊢
      refine (gives_saveSequence h path s.operations s).tried _ (fun f hf => ?_) fun _ _ => ?_
      · have herr : v.err = none := hquiet.resolve_right fun hok => by simp [hok] at hf
        apply gives_writeFailed
        exact herr
      · exact gives_pure _ true

theorem reaches_finish {v : View} (hv : v.err = none) (o : Options) {config : Config} {text : String}
    (hlevel : Level.ofDatum o.logLevel = .ok v.level) (hconfig : configOf v.files o.config = .ok config)
    (htext : v.files.programText (Address.parse o.input) = .ok text) :
    Reaches v (finish o config (named v.endings (Program.read text)))
      fun r v' => manual.Ends v.files v.endings o r v'.files := by
  have hb : v.Bears .info := .inl hv
  have hnone (h : isRefused o text = true ∨ (written v.files v.endings o config text).2 = .ok ()) :
      manual.failure? v.files v.endings o = none := by
    change failure? v.files v.endings o = none
    rcases h with h | h <;> simp [failure?, hlevel, hconfig, htext, h]
  have htold (s : String) :
      Gives v (do tellLine s; pure (ForInStep.yield PUnit.unit)) (.ok (.yield PUnit.unit)) v :=
    (gives_tellLine hv s).bind (gives_pure v _)
  refine Gives.bind_reaches (gives_forIn fun p _ => htold _) ?_
  refine Gives.bind_reaches (gives_forIn fun p _ => htold _) ?_
  split
  · next hrefused =>
    have hstops : o.switch = true ∧ (Program.read text).problems ≠ [] := by
      simpa [named] using hrefused
    exact ⟨.ok 2, v, gives_pure v 2, .refused (hnone (.inl hrefused))
      ⟨config, text, hconfig, htext, hstops⟩ (FileTree.KeepsFiles.refl _)⟩
  · next hnot =>
    have hrefused : ¬ isRefused o text = true := hnot
    refine Gives.bind_reaches (gives_applyReading hb _ _) ?_
    change Reaches v (save o.output (imported v.endings config text) >>= _) _
    refine reaches_written (m := manual) (w := written v.files v.endings o config text)
      (gives_save hb o.output (imported v.endings config text) (.inl hv))
      (sparesFiles_changed v.files o.output fun a =>
        FileTree.sparesFiles_saveSequence v.files a _ _) rfl (fun f hw => ?_) fun hw => ?_
    · change failure? v.files v.endings o = some (.write, f)
      simp [failure?, hlevel, hconfig, htext, hrefused, hw]
    · have hops : ∀ p ∈ (imported v.endings config text).operations, p.IsStorable :=
        isStorable_nameProbes (fun p => Program.isStorable_of_mem_probes) v.endings 0
      refine Gives.bind_reaches (gives_list _ hops _) ?_
      refine ⟨.ok 0, _, gives_pure _ 0, .done (hnone (.inr hw)) ?_⟩
      rintro ⟨config', text', -, htext', hswitch, hproblems⟩
      obtain rfl := Except.ok.inj (htext.symm.trans htext')
      simp [isRefused, hswitch, hproblems] at hrefused

theorem reaches_work {v : View} (hv : v.err = none) (o : Options)
    (hlevel : Level.ofDatum o.logLevel = .ok v.level) :
    Reaches v (work o) fun r v' => manual.Ends v.files v.endings o r v'.files := by
  have hload := gives_loadConfig (.inl hv) o.config
  cases hconfig : configOf v.files o.config with
  | error f =>
      rw [hconfig] at hload
      have hfails : failure? v.files v.endings o = some (.config, f) := by
        simp [failure?, hlevel, hconfig]
      exact reaches_failed (m := manual) hfails hload rfl (gives_told hv _)
  | ok config =>
      rw [hconfig] at hload
      refine Gives.bind_reaches (hload.attempt _) ?_
      refine Gives.bind_reaches (gives_pushField v "source" o.input) ?_
      have hread := gives_readProgram (.inl hv) o.input fun _ _ => .inr hv
      cases htext : v.files.programText (Address.parse o.input) with
      | error f =>
          rw [htext] at hread
          have hfails : failure? v.files v.endings o = some (.input, f) := by
            simp [failure?, hlevel, hconfig, htext]
          exact reaches_failed (m := manual) hfails hread rfl (gives_told hv _)
      | ok text =>
          rw [htext] at hread
          exact Gives.bind_reaches (hread.attempt _) (reaches_finish hv o hlevel hconfig htext)

end Import

/-! ### Runs -/

/-- A run whose work ends in one of the ways that are told ends in one of them. -/
theorem Manual.IsClear.ends_run {m : Manual} (hclear : m.IsClear) {args : List String} {o : Options}
    (h : readArguments m.tool.interface args = .ok o)
    (hwork : ∀ {v : View}, v.err = none → Level.ofDatum o.logLevel = .ok v.level →
      Reaches v (m.tool.work o) fun r v' => m.Ends v.files v.endings o r v'.files) (c : Console) :
    m.Ends c.files c.freshEnding o ((m.tool.run args).run.run c).1
      ((m.tool.run args).run.run c).2.files := by
  cases hlevel : Level.ofDatum o.logLevel with
  | error f =>
      rw [run_eq h, run_bind, run_setUpJournal_of_error _ hlevel]
      refine .escaped (hclear.journal hlevel) (fun hmem => ?_) fun _ => FileTree.KeepsFiles.refl _
      have hreads := hclear.reads .journal (List.ne_nil_of_mem hmem)
      simp at hreads
  | ok l =>
      -- What the work depends on is the same as before the journal was set up.
      obtain ⟨r, v', hgives, hends⟩ := @hwork ⟨c.files, c.freshEnding, l, none⟩ rfl hlevel
      obtain ⟨hresult, hafter⟩ := run_of_gives h hlevel (by simp) hgives
      rw [hresult, hafter.files]
      exact hends

/-- A run ends with the documented exit status just when its fault is caught, if it has one, and
else with that fault.  All files are kept if its status is not zero, and also if it ends with a
fault, unless that is a fault of the summary. -/
theorem ends_as_documented_iff {m : Manual} (hm : m ∈ [Generate.manual, Import.manual])
    {args : List String} {o : Options} (h : readArguments m.tool.interface args = .ok o)
    (c : Console) :
    ((∃ n, ((m.tool.run args).run.run c).1 = .ok n ∧
      m.Describes c.files c.freshEnding o n ((m.tool.run args).run.run c).2.files) ↔
        m.Covers c.files c.freshEnding o) ∧
    (¬ m.Covers c.files c.freshEnding o → ∃ f, ((m.tool.run args).run.run c).1 = .error f) ∧
    ((∀ f, m.failure? c.files c.freshEnding o ≠ some (.summary, f)) →
      ((m.tool.run args).run.run c).1 ≠ .ok 0 →
        c.files.KeepsFiles ((m.tool.run args).run.run c).2.files) := by
  rcases List.mem_pair.1 hm with rfl | rfl
  · have hclear := Generate.isClear_manual
    exact (hclear.ends_run h fun hv hlevel => Generate.reaches_work hv o hlevel) c |>.describes_iff hclear
  · have hclear := Import.isClear_manual
    exact (hclear.ends_run h fun hv hlevel => Import.reaches_work hv o hlevel) c |>.describes_iff hclear

def freshConsole (t : FileTree) : Console where
  files := t
  time _ := ""
  process := 0
  freshEnding := toString

/-- The program is not there, which is caught. -/
theorem ends_as_documented_missing :
    readArguments Import.manual.tool.interface ["a.nc"] = .ok { input := "a.nc" } ∧
      ∃ n, ((Import.manual.tool.run ["a.nc"]).run.run (freshConsole ⟨[], []⟩)).1 = .ok n ∧
        Import.manual.Describes ⟨[], []⟩ toString { input := "a.nc" } n
          ((Import.manual.tool.run ["a.nc"]).run.run (freshConsole ⟨[], []⟩)).2.files := by
  have hargs : readArguments Import.manual.tool.interface ["a.nc"] = .ok { input := "a.nc" } := rfl
  have hfails : (Import.manual.failure? ⟨[], []⟩ toString { input := "a.nc" }).map
      (fun e => (e.1, e.2.family)) = some (.input, .missingFile) := by decide +kernel
  refine ⟨hargs, (ends_as_documented_iff (by simp) hargs (freshConsole ⟨[], []⟩)).1.2 ?_⟩
  intro stage f hf
  change Import.manual.failure? ⟨[], []⟩ toString { input := "a.nc" } = some (stage, f) at hf
  rw [hf] at hfails
  obtain ⟨rfl, hfamily⟩ := Prod.mk.inj (Option.some.inj hfails)
  rw [hfamily]
  decide

/-- Where the address of the program leads to a folder, nothing catches the fault. -/
theorem escapes_folder :
    readArguments Import.manual.tool.interface ["d"] = .ok { input := "d" } ∧
      ∀ n, ((Import.manual.tool.run ["d"]).run.run (freshConsole ⟨[], [(["d"], .folder)]⟩)).1 ≠
        .ok n := by
  have hfault : ((Import.manual.tool.run ["d"]).run.run
      (freshConsole ⟨[], [(["d"], .folder)]⟩)).1.isOk = false := by decide +kernel
  refine ⟨rfl, fun n hn => ?_⟩
  rw [hn] at hfault
  cases hfault

end TouchProbe.CommandLine
