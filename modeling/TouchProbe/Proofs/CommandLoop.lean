import TouchProbe.Proofs.ExitStatuses
import TouchProbe.Proofs.ProgramFiles
import TouchProbe.Proofs.YamlFiles

/-!
The loop of the command line is the identity on programs.  A sequence is written as a program, the
program is read into a document, and the document is written as a program again: every run ends
well, and both programs are the same to the byte.  Names of steps and floats in place of whole
numbers are all that changes on the way, and neither shows in a program.
-/

namespace TouchProbe

/-! ### Names do not show -/

namespace Program

open Text Number Naming

theorem stepLine?_nameStep (ending : String) (s : Step) :
    stepLine? (nameStep ending s) = stepLine? s := by
  cases s <;> rfl

theorem map_stepLine?_nameSteps (endings : Nat → String) (first : Nat) (steps : List Step) :
    (nameSteps endings first steps).map stepLine? = steps.map stepLine? := by
  have hnamed : List.Forall₂ (fun s named => stepLine? named = stepLine? s) steps
      (nameSteps endings first (steps.map id)) :=
    forall₂_nameSteps (fun s ending => stepLine?_nameStep ending s) endings first steps
  rw [List.map_id] at hnamed
  rw [← List.forall₂_eq_eq_eq, List.forall₂_map_left_iff, List.forall₂_map_right_iff]
  exact hnamed.flip

theorem writesAs_nameProbe (endings : Nat → String) (first : Nat) (p : Probe) :
    WritesAs (nameProbe endings first p) p where
  axis := rfl
  forward := rfl
  distance := rfl
  feedRate := rfl
  backoff := rfl
  offset := rfl
  preMoves := map_stepLine?_nameSteps endings _ p.preMoves
  postMoves := map_stepLine?_nameSteps endings _ p.postMoves

/-- Naming operations and steps keeps the program. -/
theorem write_nameProbes (endings : Nat → String) (first : Nat) (ops : List Probe) (s : Settings) :
    write (nameProbes endings first ops) s = write ops s := by
  have hnamed : List.Forall₂ (fun p named => WritesAs named p) ops
      (nameProbes endings first (ops.map id)) :=
    forall₂_nameProbes (fun p k => writesAs_nameProbe endings k p) ops first
  rw [List.map_id] at hnamed
  exact write_congr hnamed.flip ⟨fun _ => rfl, rfl, rfl, rfl⟩

theorem IsShownProbe.isReadProbe {p : Probe} (h : IsShownProbe p) : IsReadProbe p where
  toIsPlainProbe := h.toIsPlainProbe
  offset_nonneg := h.offset_nonneg
  forward hzero := by
    have hsame := h.forward hzero
    cases hn : p.direction.number? with
    | none => cases hd : p.direction <;> simp_all [Scalar.same, Scalar.number?]
    | some n =>
        rw [same_of_number hn rfl] at hsame
        rw [Probe.isForward, hn]
        exact isPositive_of_same hsame (by decide)

/-- A whole number above zero is not cut to zero. -/
theorem truncate?_ne_zero {x : Float} (hwhole : isWhole x = true) (hx : zero < x) :
    truncate? x ≠ some 0 := by
  intro hzero
  obtain ⟨k, hk, hfloat⟩ := ofInt?_truncate? hwhole
  obtain rfl : k = 0 := Option.some.inj (hk.symm.trans hzero)
  have hsettled : settled x = zero := (Option.some.inj hfloat).symm
  have hxzero : isZero x = true := by
    rw [settled] at hsettled
    split at hsettled
    · assumption
    · rw [hsettled]
      exact isZero_zero
  obtain ⟨negative, hparts⟩ := isZero_iff.1 hxzero
  exact ((zero_lt_iff hparts).1 hx).2 rfl

/-- Whether a sequence comes back in full from its program: its operations do, the speed is above
zero, and the pauses before a probe are two at least. -/
structure IsShownSequence (s : Settings) : Prop extends IsPlainHead s where
  operations : ∀ p ∈ s.operations, IsShownProbe p
  speed : zero < floatOf s.spindle
  dwells : ∃ count : Nat, 2 ≤ count ∧ s.dwells = .int count

/-- Whatever settings take over what is read of the program of a sequence, and however operations
and steps are named, the program stays the same. -/
theorem IsShownSequence.write_read {s : Settings} (h : IsShownSequence s) {text : String}
    (htext : write s.operations s = .ok text) (base : Settings) (endings : Nat → String) :
    (read text).problems = [] ∧ (read text).assumptions = [] ∧
      write (nameProbes endings 0 (read text).probes) (Edit.applyReading base (read text)) = .ok text := by
  obtain ⟨count, hcount, hdwells⟩ := h.dwells
  have hpauses : pauseCount s.dwells = .ok count := by rw [hdwells, pauseCount_int]
  have hplain : ∀ p ∈ s.operations, IsPlainProbe p := fun p hp => (h.operations p hp).toIsPlainProbe
  obtain ⟨text', hwrite, hread⟩ := exists_rereads hplain h.toIsPlainHead hpauses hcount
  obtain rfl := Except.ok.inj (hwrite.symm.trans htext)
  refine ⟨hread.problems, hread.assumptions, ?_⟩
  rw [write_nameProbes, hread.write_eq (fun p hp => (h.operations p hp).isReadProbe) h.toIsPlainHead
    hpauses hcount fun hzero => absurd hzero (truncate?_ne_zero h.spindle_whole h.speed)]
  exact htext

end Program

/-! ### Runs that succeed -/

namespace CommandLine

open Session Program

def after (tool : Tool) (args : List String) (c : Console) : Console := ((tool.run args).run.run c).2

/-- Whether a run ends with the status zero and tells nothing. -/
structure Succeeds (tool : Tool) (args : List String) (c : Console) : Prop where
  status : ((tool.run args).run.run c).1 = .ok 0
  quiet : (after tool args c).err = c.err

/-- What the work of a run depends on at its start, without options for the journal. -/
def atStart (c : Console) : View := ⟨c.files, c.freshEnding, .warning, some c.err⟩

theorem bears_atStart (c : Console) : (atStart c).Bears .info :=
  .inr (show Level.info < .warning by decide)

def IsWritable (t : FileTree) (path : String) : Prop :=
  ∀ bytes, (t.write (Address.parse path) bytes).2 = .ok ()

variable {t : FileTree} {path : String}

theorem exists_write (h : IsWritable t path) (bytes : List UInt8) :
    ∃ t', t.write (Address.parse path) bytes = (t', .ok ()) :=
  ⟨_, Prod.ext rfl (h bytes)⟩

/-- A path at which a file can be written is not empty. -/
theorem givenPath?_of_isWritable (hhere : ".." ∉ t.here) (h : IsWritable t path) :
    givenPath? (.text path) = some path := by
  cases hempty : path.isEmpty with
  | false => simp [givenPath?, hempty]
  | true =>
      obtain rfl := String.isEmpty_iff.1 hempty
      obtain ⟨t', hwritten⟩ := exists_write h []
      have hfind := FileTree.find_of_write hhere hwritten
      cases hfind

namespace Generate

/-- The program of a sequence that can be loaded and written goes to its file. -/
theorem gives_work {v : View} (hb : v.Bears .info) {source : String} {output : Datum} {s : Settings}
    (hload : v.files.loadSequence (Address.parse source) = .ok s) {text : String}
    (htext : Program.write s.operations s = .ok text)
    (hdone : (written v.files { input := source, output } text).2 = .ok ()) :
    Gives v (work { input := source, output }) (.ok 0)
      { v with files := (written v.files { input := source, output } text).1 } := by
  have hsequence := gives_loadSequence hb source
  have hwrite := gives_writeProgram hb s.operations s
  have hdeliver := gives_deliver hb { input := source, output } text (.inr hdone)
  rw [hload] at hsequence
  rw [htext] at hwrite
  rw [hdone] at hdeliver
  exact (hsequence.attempt _).bind (hwrite.bind (hdeliver.bind (gives_pure _ 0)))

theorem written_eq (hhere : ".." ∉ t.here) (h : IsWritable t path) {text : String} (htext : Stays text)
    (source : String) :
    written t { input := source, output := .text path } text =
      t.write (Address.parse path) text.toUTF8.toList := by
  rw [written, changed, givenPath?_of_isWritable hhere h]
  simp only [FileTree.writeText, Text.encode_utf8 htext]

/-- A program that is read from a file as it was written is written to one by a run. -/
theorem succeeds {args : List String} {source : String}
    (hargs : readArguments interface args = .ok { input := source, output := .text path }) {c : Console}
    (hhere : ".." ∉ c.files.here) (hwritable : IsWritable c.files path) {s : Settings}
    (hload : c.files.loadSequence (Address.parse source) = .ok s) {text : String}
    (htext : Program.write s.operations s = .ok text) (hstays : Stays text) :
    Succeeds tool args c ∧
      c.files.write (Address.parse path) text.toUTF8.toList = ((after tool args c).files, .ok ()) := by
  have hwritten := written_eq hhere hwritable hstays source
  have hdone := hwritable text.toUTF8.toList
  have hok : (written c.files { input := source, output := .text path } text).2 = .ok () :=
    hwritten ▸ hdone
  have hwork := gives_work (v := atStart c) (bears_atStart c) hload htext hok
  have hopts : readArguments tool.interface args = .ok { input := source, output := .text path } :=
    hargs
  obtain ⟨hstatus, hview⟩ := run_of_gives hopts rfl (by simp) hwork
  refine ⟨⟨hstatus, hview.err c.err rfl⟩, Prod.ext ?_ hdone⟩
  rw [← hwritten]
  exact hview.files.symm

end Generate

namespace Import

/-- A program without errors and warnings goes to the file of its sequence. -/
theorem gives_work {v : View} (hb : v.Bears .info) {source : String} {output : Datum} {text : String}
    (htext : v.files.programText (Address.parse source) = .ok text)
    (hproblems : (Program.read text).problems = []) (hassumptions : (Program.read text).assumptions = [])
    (hdone : (written v.files v.endings { input := source, output } .packaged text).2 = .ok ()) :
    Gives v (work { input := source, output }) (.ok 0)
      { v with files := (written v.files v.endings { input := source, output } .packaged text).1 } := by
  have hread := gives_readProgram hb source fun other hother => by
    obtain rfl := Except.ok.inj (htext.symm.trans hother)
    exact .inl hproblems
  rw [htext] at hread
  refine ((gives_packaged hb).attempt _).bind ((gives_pushField v "source" source).bind
    ((hread.attempt _).bind ?_))
  have hsave := gives_save hb output (imported v.endings .packaged text) (.inr hdone)
  have hops : ∀ p ∈ (imported v.endings .packaged text).operations, p.IsStorable :=
    isStorable_nameProbes (fun p => Program.isStorable_of_mem_probes) v.endings 0
  refine Gives.bind (gives_forIn fun p hp => ?_) (Gives.bind (gives_forIn fun a ha => ?_) ?_)
  · simp [named, hproblems] at hp
  · simp [named, hassumptions] at ha
  · refine (gives_applyReading hb _ _).bind ?_
    change Gives v (save output (imported v.endings .packaged text) >>= _) _ _
    have hwritten : (changed v.files output fun a t => t.saveSequence a
        (imported v.endings .packaged text).operations (imported v.endings .packaged text)).2 =
          .ok () := hdone
    rw [hwritten] at hsave
    exact hsave.bind ((gives_list _ hops _).bind (gives_pure _ 0))

/-- The sequence of a program is saved by a run. -/
theorem succeeds {args : List String} {source : String}
    (hargs : readArguments interface args = .ok { input := source, output := .text path }) {c : Console}
    (hgiven : givenPath? (.text path) = some path) {text : String}
    (htext : c.files.programText (Address.parse source) = .ok text)
    (hproblems : (Program.read text).problems = []) (hassumptions : (Program.read text).assumptions = [])
    {t : FileTree}
    (hsave : c.files.saveSequence (Address.parse path)
      (imported c.freshEnding .packaged text).operations (imported c.freshEnding .packaged text) =
        (t, .ok ())) :
    Succeeds tool args c ∧ (after tool args c).files = t := by
  have hwritten : written c.files c.freshEnding { input := source, output := .text path } .packaged
      text = (t, .ok ()) := by
    rw [written, changed, hgiven]
    exact hsave
  have hok : (written c.files c.freshEnding { input := source, output := .text path } .packaged
      text).2 = .ok () := by
    rw [hwritten]
  have hwork := gives_work (v := atStart c) (bears_atStart c) htext hproblems hassumptions hok
  have hopts : readArguments tool.interface args = .ok { input := source, output := .text path } :=
    hargs
  obtain ⟨hstatus, hview⟩ := run_of_gives hopts rfl (by simp) hwork
  exact ⟨⟨hstatus, hview.err c.err rfl⟩, hview.files.trans (congrArg Prod.fst hwritten)⟩

end Import

/-! ### Documents of imports -/

theorem isStorable_imported (endings : Nat → String) (text : String) :
    (Import.imported endings .packaged text).IsStorable := by
  have husual := Settings.isStorable_default
  have hpackaged : Config.packaged.settings.IsStorable :=
    ⟨husual.start, husual.dwells, Datum.isExact_float _,
      show Number.zero ≤ floatOf (decimal false 5000 0) by decide +kernel, husual.tool⟩
  have h := isStorable_applyReading hpackaged text
  exact ⟨h.start, h.dwells, h.spindle, h.spindle_nonneg, h.tool⟩

theorem exists_saveSequence {ops : List Probe} {s : Settings} {d : Datum}
    (hd : Document.ofSequence ops s = .ok d) (hback : Yaml.ComesBack d) (h : IsWritable t path) :
    ∃ bytes t', t.write (Address.parse path) bytes = (t', .ok ()) ∧
      t.saveSequence (Address.parse path) ops s = (t', .ok ()) := by
  obtain ⟨bytes, hbytes, -⟩ := hback
  obtain ⟨t', hwritten⟩ := exists_write h bytes
  refine ⟨bytes, t', hwritten, ?_⟩
  rw [FileTree.saveSequence, hd]
  simp only [FileTree.saveYaml, FileTree.writeText, hbytes, hwritten]

/-- A sequence that was saved is loaded with floats in place of whole numbers. -/
theorem loadSequence_reopened (hhere : ".." ∉ t.here) {t' : FileTree} {a : Address} {ops : List Probe}
    {s : Settings} (hops : ∀ p ∈ ops, p.IsStorable) (hs : s.IsStorable)
    (hfeeds : ∀ p ∈ ops, Number.zero < floatOf p.feedRate) {d : Datum}
    (hd : Document.ofSequence ops s = .ok d) (hback : Yaml.ComesBack d)
    (hsave : t.saveSequence a ops s = (t', .ok ())) :
    t'.loadSequence a = .ok (Document.reopened ops s) := by
  obtain ⟨e, he, hopened⟩ := Document.toSequence_ofSequence hops hs
  obtain rfl := Except.ok.inj (he.symm.trans hd)
  obtain ⟨bytes, hencoded, hread⟩ := hback
  rw [FileTree.loadSequence_of_saveSequence hhere hd (fun other hother => ?_) hsave]
  · exact (hopened a.text _).2 ⟨hfeeds, rfl⟩
  · obtain rfl := Except.ok.inj (hencoded.symm.trans hother)
    exact hread

/-- The program of a sequence is imported into a document, and the document is loaded as a sequence
with the same program. -/
theorem Import.reopens {args : List String} {source : String}
    (hargs : readArguments interface args = .ok { input := source, output := .text path }) {c : Console}
    (hhere : ".." ∉ c.files.here) (hwritable : IsWritable c.files path) {s : Settings}
    (hs : IsShownSequence s) {text : String} (htext : Program.write s.operations s = .ok text)
    (hprogram : c.files.programText (Address.parse source) = .ok text)
    (hyaml : ∀ d, Document.ofSequence (imported c.freshEnding .packaged text).operations
      (imported c.freshEnding .packaged text) = .ok d → Yaml.ComesBack d) :
    Succeeds tool args c ∧
      (∃ bytes, c.files.write (Address.parse path) bytes = ((after tool args c).files, .ok ())) ∧
      ∃ s', (after tool args c).files.loadSequence (Address.parse path) = .ok s' ∧
        Program.write s'.operations s' = .ok text := by
  obtain ⟨hproblems, hassumptions, hagain⟩ := hs.write_read htext Config.packaged.settings c.freshEnding
  have hops : ∀ p ∈ (imported c.freshEnding .packaged text).operations, p.IsStorable :=
    isStorable_nameProbes (fun p => isStorable_of_mem_probes) c.freshEnding 0
  have hfeeds : ∀ p ∈ (imported c.freshEnding .packaged text).operations,
      Number.zero < floatOf p.feedRate :=
    Document.floatOf_nameProbes (fun p => feedRate_of_mem_probes) c.freshEnding 0
  have hsettings := isStorable_imported c.freshEnding text
  obtain ⟨d, hd, -⟩ := Document.toSequence_ofSequence hops hsettings
  obtain ⟨bytes, t', hwritten, hsave⟩ := exists_saveSequence hd (hyaml d hd) hwritable
  obtain ⟨hsucceeds, hafter⟩ := succeeds hargs (givenPath?_of_isWritable hhere hwritable) hprogram
    hproblems hassumptions hsave
  obtain rfl := hafter
  refine ⟨hsucceeds, ⟨bytes, hwritten⟩, _,
    loadSequence_reopened hhere hops hsettings hfeeds hd (hyaml d hd) hsave, ?_⟩
  exact (write_reopened hops hsettings).trans hagain

/-! ### The loop -/

/-- A program that is written of a sequence, read into a document and written of the document again
is the same to the byte. -/
theorem regenerates {source a b target : String} {args₁ args₂ args₃ : List String}
    (hargs₁ : readArguments Generate.interface args₁ = .ok { input := source, output := .text a })
    (hargs₂ : readArguments Import.interface args₂ = .ok { input := a, output := .text b })
    (hargs₃ : readArguments Generate.interface args₃ = .ok { input := b, output := .text target })
    {c₁ c₂ c₃ : Console} (hfiles₂ : c₂.files = (after Generate.tool args₁ c₁).files)
    (hfiles₃ : c₃.files = (after Import.tool args₂ c₂).files) (hhere : ".." ∉ c₁.files.here)
    (hapart : c₁.files.way (Address.parse a) ≠ c₁.files.way (Address.parse b))
    (hwritable₁ : IsWritable c₁.files a) (hwritable₂ : IsWritable c₂.files b)
    (hwritable₃ : IsWritable c₃.files target) {s : Settings}
    (hload : c₁.files.loadSequence (Address.parse source) = .ok s) (hs : IsShownSequence s)
    (hcomments : ∀ p ∈ s.operations, HasStayingComments p)
    (hyaml : ∀ text d, Program.write s.operations s = .ok text →
      Document.ofSequence (Import.imported c₂.freshEnding .packaged text).operations
        (Import.imported c₂.freshEnding .packaged text) = .ok d → Yaml.ComesBack d) :
    Succeeds Generate.tool args₁ c₁ ∧ Succeeds Import.tool args₂ c₂ ∧
      Succeeds Generate.tool args₃ c₃ ∧
      ∃ bytes, (after Generate.tool args₃ c₃).files.find (Address.parse a) = .file bytes ∧
        (after Generate.tool args₃ c₃).files.find (Address.parse target) = .file bytes := by
  obtain ⟨text, htext⟩ := Generate.exists_write_of_loadSequence hload
  have hstays := stays_write htext hcomments
  -- The first run.
  obtain ⟨hfirst, hwritten₁⟩ := Generate.succeeds hargs₁ hhere hwritable₁ hload htext hstays
  rw [← hfiles₂] at hwritten₁
  have hfind₂ := FileTree.find_of_write hhere hwritten₁
  have hkept₂ : c₂.files.here = c₁.files.here := FileTree.here_of_write hhere hwritten₁
  have hhere₂ : ".." ∉ c₂.files.here := by rwa [hkept₂]
  -- The second run.
  have hprogram := FileTree.programText_of_find hfind₂ hstays
  obtain ⟨hsecond, ⟨bytes, hwritten₂⟩, s₃, hload₃, htext₃⟩ :=
    Import.reopens hargs₂ hhere₂ hwritable₂ hs htext hprogram fun d => hyaml text d htext
  rw [← hfiles₃] at hwritten₂ hload₃
  have hapart₂ : c₂.files.way (Address.parse a) ≠ c₂.files.way (Address.parse b) := by
    rwa [FileTree.way, FileTree.way, FileTree.base, FileTree.base, hkept₂]
  have hfind₃ := FileTree.find_of_write_other hhere₂ hfind₂ hwritten₂ (.inl hapart₂)
  have hhere₃ : ".." ∉ c₃.files.here := by rwa [FileTree.here_of_write hhere₂ hwritten₂]
  -- The third run writes the bytes that the first one wrote, so it may write the same file.
  obtain ⟨hthird, hwritten₃⟩ := Generate.succeeds hargs₃ hhere₃ hwritable₃ hload₃ htext₃ hstays
  exact ⟨hfirst, hsecond, hthird, _, FileTree.find_of_write_other hhere₃ hfind₃ hwritten₃ (.inr rfl),
    FileTree.find_of_write hhere₃ hwritten₃⟩

/-! ### A probe after a pause -/

/-- A probe downward after a pause, with names as an import gives them. -/
def waiting (description : String) : Probe where
  axis := .z
  direction := .int (-1)
  distance := .float (Number.nearestDecimal false 2 0)
  feedRate := decimal false 50 0
  backoff := .float (Number.nearestDecimal false 1 0)
  offset := .float Number.zero
  preMoves := [.dwell {
    time := .float (Number.nearestDecimal false 1 0)
    description := .text description
    id := .given (.text "step-1") }]
  postMoves := []
  id := .given (.text "probe-0")

/-- The sequence that is loaded for the probe with the settings of a new sequence. -/
def waits (description : String) : Settings :=
  { Document.storedSettings .default with operations := [waiting description] }

variable {description : String}

theorem operations_waits : (waits description).operations = [waiting description] := rfl

/-- What there is to know of the numbers of the probe. -/
theorem numbers_waiting :
    (∀ x ∈ [Number.nearestDecimal false 2 0, Number.nearestDecimal false 50 0,
      Number.nearestDecimal false 1 0, Number.zero], Number.isPlain x = true) ∧
    Number.zero < Number.nearestDecimal false 50 0 ∧ Number.zero < Number.nearestDecimal false 1 0 ∧
    Number.isZero (Number.nearestDecimal false 2 0) = false ∧ Number.zero ≤ Number.zero ∧
    (Number.nearestDecimal false 1 0 == clearingPause) = false := by
  decide +kernel

theorem isStorable_waiting : (waiting description).IsStorable where
  id := .inr ⟨_, by decide, rfl⟩
  direction := .inr rfl
  distance := Datum.isExact_float _
  distance_nonneg := Number.zero_le_nearestDecimal 2 0
  feedRate := Datum.isExact_float _
  backoff := Datum.isExact_float _
  backoff_nonneg := Number.zero_le_nearestDecimal 1 0
  offset := Datum.isExact_float _
  preMoves := by
    rw [waiting, List.forall_mem_singleton]
    exact ⟨.inr ⟨_, by decide, rfl⟩, ⟨_, rfl⟩, Datum.isExact_float _,
      Number.zero_le_nearestDecimal 1 0⟩
  postMoves := by simp [waiting]

theorem isPlainNumber_float {x : Float} (h : Number.isPlain x = true) : IsPlainNumber (.float x) :=
  ⟨rfl, rfl, h⟩

theorem isShownProbe_waiting (h : IsDescription (.text description)) :
    IsShownProbe (waiting description) := by
  obtain ⟨hplain, hfeed, htime, hdistance, hzero, hclearing⟩ := numbers_waiting
  have hnumber (x : Float) (hx : x ∈ [Number.nearestDecimal false 2 0, Number.nearestDecimal false 50 0,
      Number.nearestDecimal false 1 0, Number.zero]) : IsPlainNumber (.float x) :=
    isPlainNumber_float (hplain x hx)
  exact {
    distance := hnumber _ (by simp)
    distance_nonneg := isStorable_waiting.distance_nonneg
    feedRate := hnumber _ (by simp)
    feedRate_pos := hfeed
    backoff := hnumber _ (by simp)
    backoff_nonneg := isStorable_waiting.backoff_nonneg
    offset := hnumber _ (by simp)
    preMoves := by
      rw [waiting, List.forall_mem_singleton]
      exact ⟨h, hnumber _ (by simp), htime, hclearing⟩
    postMoves := by simp [waiting]
    direction := rfl
    forward := fun hnull => Bool.noConfusion (hdistance.symm.trans hnull)
    offset_nonneg := hzero }

/-- What there is to know of the numbers of the settings of a new sequence. -/
theorem numbers_storedDefault :
    let s := Document.storedSettings .default
    (∀ a ∈ [Axis.x, .y, .z], Number.isPlain (floatOf (s.start.get a)) = true) ∧
    Number.isPlain (floatOf s.spindle) = true ∧ Number.isWhole (floatOf s.spindle) = true ∧
    Number.zero ≤ floatOf s.spindle ∧ Number.zero < floatOf s.spindle := by
  decide +kernel

theorem isShownSequence_waits (h : IsDescription (.text description)) :
    IsShownSequence (waits description) := by
  obtain ⟨hstart, hspindle, hwhole, hnonneg, hspeed⟩ := numbers_storedDefault
  exact {
    start := fun a => by
      cases a
      · exact isPlainNumber_float (hstart .x (by simp))
      · exact isPlainNumber_float (hstart .y (by simp))
      · exact isPlainNumber_float (hstart .z (by simp))
    spindle := isPlainNumber_float hspindle
    spindle_whole := hwhole
    spindle_nonneg := hnonneg
    operations := List.forall_mem_singleton.2 (isShownProbe_waiting h)
    speed := hspeed
    dwells := ⟨15, by decide, rfl⟩ }

/-- The document of operations and settings; nothing if there is none. -/
def documentOf (ops : List Probe) (s : Settings) : Datum :=
  match Document.ofSequence ops s with
  | .ok d => d
  | .error _ => .null

theorem documentOf_eq {ops : List Probe} {s : Settings} {d : Datum}
    (h : Document.ofSequence ops s = .ok d) : documentOf ops s = d := by
  rw [documentOf, h]

theorem isName_of_mem {path : String} (h : path ∈ ["s.yaml", "a.nc", "b.yaml", "c.nc"]) :
    FileTree.IsName (Address.parse path) path := by
  have hnames : ∀ n ∈ ["s.yaml", "a.nc", "b.yaml", "c.nc"],
      Address.parse n = ⟨false, [n]⟩ ∧ n ≠ ".." ∧ (Address.parse n).fault? = none := by
    decide +kernel
  obtain ⟨heq, hforth, hfault⟩ := hnames path h
  exact ⟨heq, hforth, hfault⟩

theorem isWritable_name (h : t.HasOnlyFiles) {n : String}
    (hname : FileTree.IsName (Address.parse path) n) : IsWritable t path := fun bytes => by
  rw [FileTree.write_name h hname]

/-- A file holds the probe if its document comes back. -/
theorem exists_loads_waits (h : Yaml.ComesBack (documentOf [waiting description] .default)) :
    ∃ t : FileTree, t.HasOnlyFiles ∧
      t.loadSequence (Address.parse "s.yaml") = .ok (waits description) := by
  have hops : ∀ p ∈ [waiting description], p.IsStorable := List.forall_mem_singleton.2 isStorable_waiting
  have hfeeds : ∀ p ∈ [waiting description], Number.zero < floatOf p.feedRate :=
    List.forall_mem_singleton.2 numbers_waiting.2.1
  have husual := Settings.isStorable_default
  have hempty : (⟨[], []⟩ : FileTree).HasOnlyFiles := ⟨by decide, fun n => by simp [FileTree.lookup?]⟩
  have hname : FileTree.IsName (Address.parse "s.yaml") "s.yaml" := isName_of_mem (by decide)
  obtain ⟨d, hd, -⟩ := Document.toSequence_ofSequence hops husual
  rw [documentOf_eq hd] at h
  obtain ⟨bytes, t, hwritten, hsave⟩ := exists_saveSequence hd h (isWritable_name hempty hname)
  exact ⟨t, FileTree.hasOnlyFiles_write hempty hname hwritten,
    loadSequence_reopened hempty.here hops husual hfeeds hd h hsave⟩

theorem isDescription_over : IsDescription (.text "Over") := ⟨_, rfl, by decide, by decide, by decide⟩

/-- What is read of the program of the probe has the document of the probe. -/
theorem comesBack_imported (h : Yaml.ComesBack (documentOf [waiting "Over"] .default)) {text : String}
    (htext : Program.write [waiting "Over"] (waits "Over") = .ok text) {d : Datum}
    (hd : Document.ofSequence (Import.imported toString .packaged text).operations
      (Import.imported toString .packaged text) = .ok d) : Yaml.ComesBack d := by
  have hs := isShownSequence_waits isDescription_over
  have hplain : ∀ p ∈ [waiting "Over"], IsPlainProbe p := fun p hp => (hs.operations p hp).toIsPlainProbe
  have hpauses : pauseCount (waits "Over").dwells = .ok 15 := rfl
  obtain ⟨text', hwrite, hread⟩ := exists_rereads hplain hs.toIsPlainHead hpauses (by decide)
  obtain rfl := Except.ok.inj (hwrite.symm.trans htext)
  rw [Import.imported, named, hread.eq (by simp)] at hd
  have hidentical : (documentOf [waiting "Over"] .default).identical (documentOf
      (Naming.nameProbes toString 0 ([waiting "Over"].map rereadProbe))
      (Edit.applyReading Config.packaged.settings {
        probes := []
        start := State.startPosition (startRead (waits "Over"))
        dwells := some 15
        spindle := Number.truncate? (Number.settled (floatOf (waits "Over").spindle))
        units := some .mm
        problems := []
        assumptions := [] })) = true := by decide +kernel
  rw [← documentOf_eq hd]
  rw [Datum.eq_of_identical hidentical] at h
  exact h

/-- A sequence of one probe after a pause is written, imported and written again. -/
theorem regenerates_waiting :
    ∃ c₁ c₂ c₃ : Console, c₁.files.loadSequence (Address.parse "s.yaml") = .ok (waits "Over") ∧
      c₂.files = (after Generate.tool ["s.yaml", "-o", "a.nc"] c₁).files ∧
      c₃.files = (after Import.tool ["a.nc", "-o", "b.yaml"] c₂).files ∧
      Succeeds Generate.tool ["s.yaml", "-o", "a.nc"] c₁ ∧
      Succeeds Import.tool ["a.nc", "-o", "b.yaml"] c₂ ∧
      Succeeds Generate.tool ["b.yaml", "-o", "c.nc"] c₃ ∧
      ∃ bytes,
        (after Generate.tool ["b.yaml", "-o", "c.nc"] c₃).files.find (Address.parse "a.nc") = .file bytes ∧
        (after Generate.tool ["b.yaml", "-o", "c.nc"] c₃).files.find (Address.parse "c.nc") =
          .file bytes := by
  have hback : Yaml.ComesBack (documentOf [waiting "Over"] .default) :=
    Yaml.comesBack_of_isReread (by decide +kernel)
  have ha : FileTree.IsName (Address.parse "a.nc") "a.nc" := isName_of_mem (by decide)
  have hb : FileTree.IsName (Address.parse "b.yaml") "b.yaml" := isName_of_mem (by decide)
  have hc : FileTree.IsName (Address.parse "c.nc") "c.nc" := isName_of_mem (by decide)
  have hs := isShownSequence_waits isDescription_over
  have hcomments : ∀ p ∈ [waiting "Over"], HasStayingComments p :=
    List.forall_mem_singleton.2 (List.forall_mem_singleton.2 (by decide))
  obtain ⟨t, ht, hload⟩ := exists_loads_waits hback
  obtain ⟨text, htext⟩ := Generate.exists_write_of_loadSequence hload
  have hstays := stays_write htext hcomments
  -- In each of the trees that the runs find there is nothing but files.
  have hargs₁ : readArguments Generate.interface ["s.yaml", "-o", "a.nc"] =
      .ok { input := "s.yaml", output := .text "a.nc" } := rfl
  obtain ⟨-, hwritten₁⟩ := Generate.succeeds (c := freshConsole t) hargs₁ ht.here
    (isWritable_name ht ha) hload htext hstays
  obtain ⟨t₂, ht₂⟩ :
      ∃ t₂, (after Generate.tool ["s.yaml", "-o", "a.nc"] (freshConsole t)).files = t₂ := ⟨_, rfl⟩
  rw [ht₂] at hwritten₁
  have hfiles₂ := FileTree.hasOnlyFiles_write ht ha hwritten₁
  have hprogram := FileTree.programText_of_find (FileTree.find_of_write ht.here hwritten₁) hstays
  have hargs₂ : readArguments Import.interface ["a.nc", "-o", "b.yaml"] =
      .ok { input := "a.nc", output := .text "b.yaml" } := rfl
  obtain ⟨-, ⟨bytes, hwritten₂⟩, -⟩ := Import.reopens (c := freshConsole t₂) hargs₂ hfiles₂.here
    (isWritable_name hfiles₂ hb) hs htext hprogram fun d => comesBack_imported hback htext
  have hfiles₃ := FileTree.hasOnlyFiles_write hfiles₂ hb hwritten₂
  refine ⟨freshConsole t, freshConsole t₂,
    freshConsole (after Import.tool ["a.nc", "-o", "b.yaml"] (freshConsole t₂)).files, hload, ht₂.symm,
    rfl, ?_⟩
  refine regenerates hargs₁ hargs₂ rfl ht₂.symm rfl ht.here ?_ (isWritable_name ht ha)
    (isWritable_name hfiles₂ hb) (isWritable_name hfiles₃ hc) hload hs hcomments
    fun text d htext => comesBack_imported hback htext
  change t.way _ ≠ t.way _
  rw [FileTree.way_name ht.here ha, FileTree.way_name ht.here hb]
  simp

/-! ### A description that no file can hold -/

/-- A text of a lone half. -/
def half : String := String.ofList [Text.ofHalf 0xD800]

/-- A run that ends with the status zero has written the program. -/
theorem Generate.written_of_status {args : List String} {o : Options}
    (hargs : readArguments Generate.interface args = .ok o) {c : Console}
    (hstatus : ((Generate.tool.run args).run.run c).1 = .ok 0) {s : Settings}
    (hload : c.files.loadSequence (Address.parse o.input) = .ok s) {text : String}
    (htext : Program.write s.operations s = .ok text) : (written c.files o text).2 = .ok () := by
  have hends := Generate.isClear_manual.ends_run hargs
    (fun hv hlevel => Generate.reaches_work hv _ hlevel) c
  change Generate.manual.Ends _ _ _ ((Generate.tool.run args).run.run c).1 _ at hends
  rw [hstatus] at hends
  cases hends with
  | done hnone =>
      change failure? c.files c.freshEnding o = none at hnone
      rw [failure?, hload] at hnone
      cases hlevel : Level.ofDatum o.logLevel with
      | error f => simp [hlevel] at hnone
      | ok l =>
          cases htested : tested c.files o with
          | error f => simp [hlevel, htested] at hnone
          | ok config =>
              cases hwritten : (written c.files o text).2 with
              | error f => simp [hlevel, htested, htext, hwritten] at hnone
              | ok u => rfl

theorem exists_encode_of_write_half {text : String}
    (htext : Program.write [waiting half] (waits half) = .ok text) :
    ∃ f, Text.encode .utf8 text = .error f := by
  have hlacks : ((lines [waiting half] (waits half)).toOption.all fun ls =>
      (Text.firstLacking Text.Encoding.utf8.has 0 (ls.flatMap Line.chars)).isSome) = true := by
    decide +kernel
  obtain ⟨ls, hls, rfl⟩ := map_eq_ok.1 htext
  rw [hls] at hlacks
  simp only [Except.toOption, Option.all_some] at hlacks
  obtain ⟨lacking, hlacking⟩ := Option.isSome_iff_exists.1 hlacks
  rw [textOf, Text.encode, String.toList_ofList, hlacking]
  exact ⟨_, rfl⟩

/-- The program of a probe after a pause with a description that no file can hold is not written,
though nothing else stands in the way of the loop. -/
theorem not_regenerates_half :
    ∃ c : Console, c.files.loadSequence (Address.parse "s.yaml") = .ok (waits half) ∧
      IsShownSequence (waits half) ∧
      (∀ p ∈ (waits half).operations, ∀ m ∈ p.preMoves ++ p.postMoves,
        '\n' ∉ (commentOf m.description).toList ∧ '\r' ∉ (commentOf m.description).toList) ∧
      ".." ∉ c.files.here ∧ IsWritable c.files "a.nc" ∧
      ((Generate.tool.run ["s.yaml", "-o", "a.nc"]).run.run c).1 ≠ .ok 0 := by
  have hback : Yaml.ComesBack (documentOf [waiting half] .default) :=
    Yaml.comesBack_of_isReread (by decide +kernel)
  have ha : FileTree.IsName (Address.parse "a.nc") "a.nc" := isName_of_mem (by decide)
  have hdescription : IsDescription (.text half) := ⟨_, rfl, by decide, by decide, by decide⟩
  obtain ⟨t, ht, hload⟩ := exists_loads_waits hback
  have hwritable := isWritable_name ht ha
  refine ⟨freshConsole t, hload, isShownSequence_waits hdescription,
    List.forall_mem_singleton.2 (List.forall_mem_singleton.2 (by decide)), ht.here, hwritable,
    fun hstatus => ?_⟩
  obtain ⟨text, htext⟩ := Generate.exists_write_of_loadSequence hload
  have hargs : readArguments Generate.interface ["s.yaml", "-o", "a.nc"] =
      .ok { input := "s.yaml", output := .text "a.nc" } := rfl
  have hwritten := Generate.written_of_status hargs hstatus hload htext
  rw [Generate.written, changed, givenPath?_of_isWritable ht.here hwritable] at hwritten
  rw [operations_waits] at htext
  obtain ⟨f, hf⟩ := exists_encode_of_write_half htext
  simp [FileTree.writeText, hf, FileTree.unchanged] at hwritten

end CommandLine

end TouchProbe
