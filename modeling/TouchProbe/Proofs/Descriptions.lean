import TouchProbe.Proofs.Modes

/-!
The commands of a program, and what descriptions do to them.  A description is written behind its
command as a comment.  Where it is broken into several lines only the first of them belongs to the
comment; the others are lines of the program, and each of them is a command unless it is blank or
begins with a parenthesis.
-/

namespace TouchProbe

namespace Text

theorem splitOn_append_sep (sep : Char) (s t : List Char) :
    splitOn sep (s ++ sep :: t) = splitOn sep s ++ splitOn sep t := by
  induction s with
  | nil => simp [splitOn]
  | cons c s ih =>
      rw [List.cons_append, splitOn, splitOn, ih]
      split
      · rfl
      · obtain ⟨part, parts, hs⟩ := List.exists_cons_of_ne_nil (splitOn_ne_nil sep s)
        rw [hs]
        rfl

/-- What stands before the first separator belongs to the first part. -/
theorem splitOn_append {sep : Char} {s t part : List Char} {parts : List (List Char)} (h : sep ∉ s)
    (ht : splitOn sep t = part :: parts) : splitOn sep (s ++ t) = (s ++ part) :: parts := by
  induction s with
  | nil => exact ht
  | cons c s ih =>
      rw [List.mem_cons, not_or] at h
      rw [List.cons_append, splitOn, if_neg (Ne.symm h.1), ih h.2]
      rfl

theorem trim_cons_of_not_blank {c : Char} (h : isBlank c = false) (s : List Char) :
    ∃ t, trim (c :: s) = c :: t := by
  have hlast : ∃ t, (s.reverse ++ [c]).dropWhile isBlank = t ++ [c] := by
    rw [List.dropWhile_append]
    split
    · exact ⟨[], by simp [h]⟩
    · exact ⟨_, rfl⟩
  obtain ⟨t, ht⟩ := hlast
  refine ⟨t.reverse, ?_⟩
  rw [trim, trimStart_cons_of_not_blank h, trimEnd, List.reverse_cons, ht, List.reverse_append]
  rfl

end Text

/-- A step with a description in the place of its own. -/
def Step.described (description : Datum) : Step → Step
  | .rapid r => .rapid { r with description }
  | .dwell d => .dwell { d with description }

def Step.bare (s : Step) : Step := s.described (.text "")

@[simp] theorem Step.bare_described (description : Datum) (s : Step) :
    (s.described description).bare = s.bare := by
  cases s <;> rfl

def Probe.bare (p : Probe) : Probe :=
  { p with preMoves := p.preMoves.map Step.bare, postMoves := p.postMoves.map Step.bare }

namespace Program

open Text

/-! ### Command texts -/

/-- The command text of a line that is neither blank nor a comment. -/
def commandText? (line : List Char) : Option (List Char) :=
  if (trim line).isEmpty || isComment (trim line) then none else some (code line)

def commandTexts (text : String) : List (List Char) := (linesOf text).filterMap commandText?

/-- The command texts that the comment of a line leaves on lines after it. -/
def strayCommands (comment : List Char) : List (List Char) :=
  (splitOn '\n' (parenthesised comment)).tail.filterMap commandText?

/-- The command texts of a line that was written, which may be broken into several lines. -/
def Line.commandTexts (l : Line) : List (List Char) := (splitOn '\n' l.body).filterMap commandText?

theorem commandTexts_textOf (ls : List Line) :
    commandTexts (textOf ls) = ls.flatMap Line.commandTexts := by
  have hend : commandText? [] = none := rfl
  rw [commandTexts, linesOf, textOf, String.toList_ofList]
  induction ls with
  | nil => simp [splitOn, hend]
  | cons l ls ih =>
      rw [List.flatMap_cons, List.flatMap_cons, Line.chars_eq, List.append_assoc,
        List.singleton_append, splitOn_append_sep, List.filterMap_append, ih, Line.commandTexts]

theorem commandText?_command {c : List Char} (hc : IsCommand c) {bs : List Char}
    (hbs : ∀ b ∈ bs, isBlank b = true) {t : List Char} (ht : t.takeWhile (· != '(') = []) :
    commandText? (c ++ bs ++ t) = some (upper c) := by
  obtain ⟨k, r, rfl⟩ := List.exists_cons_of_ne_nil hc.nonempty
  obtain ⟨u, hu⟩ := trim_cons_of_not_blank (head_not_blank hc.trimmed) (r ++ bs ++ t)
  have hk : k ≠ '(' := fun h => hc.noOpening (h ▸ List.mem_cons_self)
  have hcode : code (k :: r ++ bs ++ t) = upper (k :: r) := by
    have htake : (k :: r ++ bs ++ t).takeWhile (· != '(') = k :: r ++ bs := by
      rw [List.takeWhile_append_of_pos, ht, List.append_nil]
      intro b hb
      rw [bne_iff_ne]
      rcases List.mem_append.1 hb with h | h
      · exact fun q => hc.noOpening (q ▸ h)
      · exact fun q => absurd (hbs b h) (by rw [q]; decide)
    rw [code, htake, trim_append_blanks hc.trimmed hc.nonempty hbs]
  have hline : k :: r ++ bs ++ t = k :: (r ++ bs ++ t) := rfl
  rw [commandText?, hcode, hline, hu]
  simp [isComment, hk]

theorem newline_not_mem_gap (column : Int) (c : List Char) : '\n' ∉ gap column c := by
  intro h
  exact absurd (List.eq_of_mem_replicate h) (by decide)

/-- A line that was written has its command, and what its comment leaves on lines after it. -/
theorem commandTexts_command {c d : String} {text : List Char} (hc : IsCode c text) :
    (Line.command c d).commandTexts = text :: strayCommands d.toList := by
  have hline : '\n' ∉ c.toList ++ gap commentColumn c.toList := by
    rw [List.mem_append, not_or]
    exact ⟨hc.isCommand.noNewline, newline_not_mem_gap _ _⟩
  -- The first line ends inside the comment, so its command is the whole command of the line.
  have hfirst : ∃ part parts, splitOn '\n' (parenthesised d.toList) = part :: parts ∧
      part.takeWhile (· != '(') = [] := by
    cases d.toList with
    | nil => exact ⟨[], [], rfl, rfl⟩
    | cons a d =>
        obtain ⟨part, parts, hd⟩ := List.exists_cons_of_ne_nil (splitOn_ne_nil '\n' (a :: d ++ [')']))
        exact ⟨'(' :: part, parts, splitOn_append (s := ['(']) (by decide) hd, rfl⟩
  obtain ⟨part, parts, hsplit, hopen⟩ := hfirst
  rw [Line.commandTexts, Line.body, pad_eq hc.isCommand, splitOn_append hline hsplit,
    List.filterMap_cons, commandText?_command hc.isCommand (fun _ => blank_of_mem_gap) hopen,
    strayCommands, hsplit, hc.upper]
  rfl

/-! ### Steps and their descriptions -/

/-- Whether the comment of a step leaves no command on lines after its own.  A step without a line
has no comment either. -/
def IsContained (s : Step) : Prop :=
  (writtenStep s).isSome = true → strayCommands (commentOf s.description).toList = []

def textsOf (ls : List Line) : List (List Char) := ls.flatMap Line.commandTexts

theorem textsOf_append (ls ks : List Line) : textsOf (ls ++ ks) = textsOf ls ++ textsOf ks :=
  List.flatMap_append

/-- Lines with the commands of other lines and perhaps more of them between these; the condition
says that there are no more. -/
structure Adds (ls ks : List Line) (none : Prop) : Prop where
  sublist : List.Sublist (textsOf ls) (textsOf ks)
  eq_iff : textsOf ls = textsOf ks ↔ none

theorem Adds.refl (ls : List Line) : Adds ls ls True := ⟨List.Sublist.refl _, by simp⟩

theorem Adds.congr {ls ks : List Line} {p q : Prop} (h : Adds ls ks p) (hpq : p ↔ q) :
    Adds ls ks q := ⟨h.sublist, h.eq_iff.trans hpq⟩

theorem Adds.append {ls ks ls' ks' : List Line} {p q : Prop} (h : Adds ls ks p)
    (h' : Adds ls' ks' q) : Adds (ls ++ ls') (ks ++ ks') (p ∧ q) where
  sublist := by
    rw [textsOf_append, textsOf_append]
    exact h.sublist.append h'.sublist
  eq_iff := by
    rw [← h.eq_iff, ← h'.eq_iff, textsOf_append, textsOf_append]
    constructor
    · intro heq
      -- Each half can only grow, so when the whole does not, neither does.
      have hlen := congrArg List.length heq
      rw [List.length_append, List.length_append] at hlen
      have h1 := h.sublist.length_le
      have h2 := h'.sublist.length_le
      exact ⟨h.sublist.eq_of_length (by omega), h'.sublist.eq_of_length (by omega)⟩
    · rintro ⟨h1, h2⟩
      rw [h1, h2]

theorem adds_command {c d : String} {text : List Char} (hc : IsCode c text) :
    Adds [.command c ""] [.command c d] (strayCommands d.toList = []) := by
  have htexts (d : String) : textsOf [.command c d] = text :: strayCommands d.toList := by
    rw [textsOf, List.flatMap_singleton, commandTexts_command hc]
  have hnone : strayCommands "".toList = [] := rfl
  refine ⟨?_, ?_⟩
  · rw [htexts, htexts, hnone]
    exact List.Sublist.cons_cons _ (List.nil_sublist _)
  · rw [htexts, htexts, hnone, List.cons_inj_right]
    exact eq_comm

def Line.uncommented : Line → Line
  | .command c _ => .command c ""
  | l => l

theorem writtenStep_bare (s : Step) : writtenStep s.bare = (writtenStep s).map Line.uncommented := by
  cases s with
  | rapid r =>
      rw [Step.bare, Step.described, writtenStep, writtenStep]
      cases r.axes with
      | values vs =>
          simp only
          cases (numberEntries vs).isEmpty <;> rfl
      | names as => rfl
      | letters as => rfl
  | dwell d =>
      rw [Step.bare, Step.described, writtenStep, writtenStep]
      simp only
      cases d.time.isTruthy <;> rfl

/-- The line of a step is a command with its description as the comment. -/
theorem writtenStep_eq_some {s : Step} {l : Line} (h : writtenStep s = some l) :
    ∃ c text, l = .command c (commentOf s.description) ∧ IsCode c text := by
  cases s with
  | rapid r =>
      rw [writtenStep] at h
      split at h
      next vs =>
        split at h
        · cases h
        · obtain rfl := Option.some.inj h
          exact ⟨_, _, rfl, isCode_rapidCommand r _⟩
      next => cases h
  | dwell d =>
      rw [writtenStep] at h
      split at h
      · obtain rfl := Option.some.inj h
        exact ⟨_, _, rfl, isCode_pauseCommand d⟩
      · cases h

theorem adds_step (s : Step) :
    Adds (writtenStep s.bare).toList (writtenStep s).toList (IsContained s) := by
  rw [writtenStep_bare, IsContained]
  cases h : writtenStep s with
  | none => exact (Adds.refl []).congr (by simp)
  | some l =>
      obtain ⟨c, text, rfl, hc⟩ := writtenStep_eq_some h
      exact (adds_command hc).congr (by simp)

theorem adds_steps (steps : List Step) :
    Adds ((steps.map Step.bare).filterMap writtenStep) (steps.filterMap writtenStep)
      (∀ s ∈ steps, IsContained s) := by
  induction steps with
  | nil => exact (Adds.refl []).congr (by simp)
  | cons s steps ih =>
      have hcons (t : Step) (ts : List Step) :
          (t :: ts).filterMap writtenStep = (writtenStep t).toList ++ ts.filterMap writtenStep := by
        rw [List.filterMap_cons]
        cases writtenStep t <;> rfl
      rw [List.map_cons, hcons, hcons]
      exact ((adds_step s).append ih).congr List.forall_mem_cons.symm

theorem adds_moves (moves : List Step) (banner : String) :
    Adds (writtenMoves (moves.map Step.bare) banner) (writtenMoves moves banner)
      (∀ s ∈ moves, IsContained s) := by
  rw [writtenMoves, writtenMoves, List.isEmpty_map]
  split
  next hempty =>
    rw [List.isEmpty_iff.1 hempty]
    exact (Adds.refl []).congr (by simp)
  next =>
    exact (((Adds.refl [.banner banner]).append (adds_steps moves)).append (Adds.refl [.blank])).congr
      (by simp)

/-! ### Operations and programs -/

/-- Whether no step of a probe operation leaves commands behind its comment. -/
def HasContained (p : Probe) : Prop := ∀ s ∈ p.preMoves ++ p.postMoves, IsContained s

theorem adds_operation (count number : Nat) (p : Probe) :
    Adds (writtenOperation count number p.bare) (writtenOperation count number p)
      (HasContained p) := by
  have hhead := Adds.refl [.banner (headBanner number p.axis)]
  have hpauses := Adds.refl (List.replicate count clearingLine)
  have hprobe := Adds.refl [.blank, probeLine p, originLine p, backoffLine p, .blank]
  have hpre := adds_moves p.preMoves (preBanner number)
  have hpost := adds_moves p.postMoves (postBanner number)
  have h := ((((hhead.append hpre).append hpauses).append hprobe).append hpost).append
    (Adds.refl [.blank])
  refine Adds.congr h ?_
  rw [HasContained, List.forall_mem_append]
  simp

theorem adds_operations (count number : Nat) (ops : List Probe) :
    Adds (writtenOperations count number (ops.map Probe.bare)) (writtenOperations count number ops)
      (∀ p ∈ ops, HasContained p) := by
  induction ops generalizing number with
  | nil => exact (Adds.refl []).congr (by simp)
  | cons p ops ih =>
      exact ((adds_operation count number p).append (ih (number + 1))).congr
        List.forall_mem_cons.symm

/-! ### Faults -/

/-- Computations agree when they fail with the same fault, or neither fails. -/
def Agree {α β : Type} (x : Except Fault α) (y : Except Fault β) : Prop :=
  x.map (fun _ => ()) = y.map fun _ => ()

section Agree

variable {α β γ : Type} {x : Except Fault α} {y : Except Fault β}

theorem Agree.symm (h : Agree x y) : Agree y x := Eq.symm h

theorem Agree.error {f : Fault} (h : Agree x y) (hx : x = .error f) : y = .error f := by
  subst hx
  cases y with
  | ok b => cases h
  | error g =>
      cases h
      rfl

theorem Agree.ok {a : α} (h : Agree x y) (hx : x = .ok a) : ∃ b, y = .ok b := by
  subst hx
  cases y with
  | ok b => exact ⟨b, rfl⟩
  | error g => cases h

theorem Agree.map {γ δ : Type} (h : Agree x y) (f : α → γ) (g : β → δ) :
    Agree (x.map f) (y.map g) := by
  cases x with
  | ok a =>
      obtain ⟨b, rfl⟩ := h.ok rfl
      rfl
  | error e =>
      rw [h.error rfl]
      rfl

theorem Agree.bind {γ δ : Type} {f : α → Except Fault γ} {g : β → Except Fault δ} (h : Agree x y)
    (hfg : ∀ a b, Agree (f a) (g b)) : Agree (x >>= f) (y >>= g) := by
  cases x with
  | ok a =>
      obtain ⟨b, rfl⟩ := h.ok rfl
      exact hfg a b
  | error e =>
      rw [h.error rfl]
      rfl

theorem Agree.bind_same {γ δ : Type} {f : α → Except Fault γ} {g : α → Except Fault δ}
    (hfg : ∀ a, Agree (f a) (g a)) : Agree (x >>= f) (x >>= g) := by
  cases x with
  | ok a => exact hfg a
  | error e => rfl

theorem Agree.mapM {f : α → Except Fault γ} {g : β → Except Fault δ} {k : α → β}
    (h : ∀ a, Agree (f a) (g (k a))) (l : List α) : Agree (l.mapM f) ((l.map k).mapM g) := by
  induction l with
  | nil => rfl
  | cons a l ih =>
      rw [List.map_cons, List.mapM_cons, List.mapM_cons]
      exact (h a).bind fun _ _ => ih.bind fun _ _ => rfl

end Agree

theorem agree_stepLine? (s : Step) : Agree (stepLine? s) (stepLine? s.bare) := by
  cases s with
  | rapid r =>
      refine Agree.bind_same fun vs => Agree.bind_same fun words => ?_
      split <;> rfl
  | dwell d =>
      rw [Step.bare, Step.described, stepLine?, stepLine?]
      split
      · rfl
      · exact Agree.bind_same fun _ => rfl

theorem agree_movesLines (moves : List Step) (banner : String) :
    Agree (movesLines moves banner) (movesLines (moves.map Step.bare) banner) := by
  rw [movesLines, movesLines, List.isEmpty_map]
  split
  · rfl
  · exact (Agree.mapM agree_stepLine? moves).bind fun _ _ => rfl

theorem agree_operationLines (dwells : Datum) (number : Nat) (p : Probe) :
    Agree (operationLines dwells number p) (operationLines dwells number p.bare) := by
  refine (agree_movesLines p.preMoves _).bind fun _ _ => Agree.bind_same fun _ =>
    Agree.bind_same fun _ => ?_
  exact (agree_movesLines p.postMoves _).bind fun _ _ => rfl

theorem agree_write (ops : List Probe) (settings : Settings) :
    Agree (write ops settings) (write (ops.map Probe.bare) settings) := by
  have hlines : Agree (lines ops settings) (lines (ops.map Probe.bare) settings) := by
    refine Agree.bind_same fun _ => ?_
    rw [List.zipIdx_map]
    exact (Agree.mapM (fun p => agree_operationLines settings.dwells (p.2 + 1) p.1) _).bind
      fun _ _ => rfl
  exact hlines.map textOf textOf

/-! ### The commands of programs -/

/-- Without its descriptions a program has the same commands but for those that comments leave. -/
theorem commandTexts_write_bare {ops : List Probe} {settings : Settings} {text : String}
    (h : write ops settings = .ok text) :
    ∃ base, write (ops.map Probe.bare) settings = .ok base ∧
      List.Sublist (commandTexts base) (commandTexts text) ∧
      (commandTexts base = commandTexts text ↔ ∀ p ∈ ops, HasContained p) := by
  obtain ⟨base, hbase⟩ := (agree_write ops settings).ok h
  obtain ⟨ls, hls, rfl⟩ := map_eq_ok.1 h
  obtain ⟨ks, hks, rfl⟩ := map_eq_ok.1 hbase
  obtain ⟨count, hcount, rfl⟩ := lines_eq_ok hls
  obtain ⟨count', hcount', rfl⟩ := lines_eq_ok hks
  have hoperations : writtenOperations count' 1 (ops.map Probe.bare) =
      writtenOperations count 1 (ops.map Probe.bare) := by
    cases ops with
    | nil => rfl
    | cons p ops =>
        obtain rfl : count = count' :=
          Except.ok.inj ((hcount (by simp)).symm.trans (hcount' (by simp)))
        rfl
  have hadds := ((Adds.refl (writtenHead settings)).append (adds_operations count 1 ops)).append
    (Adds.refl footLines)
  refine ⟨_, hbase, ?_⟩
  rw [commandTexts_textOf, commandTexts_textOf, hoperations]
  exact ⟨hadds.sublist, hadds.eq_iff.trans (by simp)⟩

/-- Two lists of operations that differ in the descriptions of their steps alone, those of the
second all contained in their lines: they fail alike, and their programs have the same commands just
when the descriptions of the first are contained in their lines as well. -/
theorem map_commandTexts_eq_iff {ops ops' : List Probe}
    (hsame : ops.map Probe.bare = ops'.map Probe.bare) (hcontained : ∀ p ∈ ops', HasContained p)
    (settings : Settings) :
    (write ops settings).map commandTexts = (write ops' settings).map commandTexts ↔
      ((write ops settings).isOk = true → ∀ p ∈ ops, HasContained p) := by
  have hagree := agree_write ops settings
  have hagree' := agree_write ops' settings
  rw [← hsame] at hagree'
  cases hwrite : write ops settings with
  | error f =>
      rw [hagree'.symm.error (hagree.error hwrite)]
      simp [Except.isOk, Except.toBool, Except.map]
  | ok text =>
      obtain ⟨base, hbase, -, hiff⟩ := commandTexts_write_bare hwrite
      obtain ⟨text', hwrite'⟩ := hagree'.symm.ok hbase
      obtain ⟨base', hbase', -, hiff'⟩ := commandTexts_write_bare hwrite'
      rw [← hsame, hbase] at hbase'
      obtain rfl := Except.ok.inj hbase'
      rw [hwrite', ← hiff, hiff'.2 hcontained]
      simp [Except.isOk, Except.toBool, Except.map, eq_comm]

/-- A probe down to the stock after a move with a description. -/
def describedDownward (description : String) : Probe :=
  downward [(moveX .relative .none).described (.text description)] []

theorem map_bare_describedDownward (d d' : String) :
    [describedDownward d].map Probe.bare = [describedDownward d'].map Probe.bare := by
  simp [describedDownward, downward, Probe.bare]

theorem hasContained_describedDownward {d : String} :
    HasContained (describedDownward d) ↔ strayCommands d.toList = [] := by
  have hcomment : commentOf ((moveX .relative .none).described (.text d)).description = d :=
    commentOf_text d
  have hline : (writtenStep ((moveX .relative .none).described (.text d))).isSome = true := rfl
  simp [HasContained, describedDownward, downward, IsContained, hcomment, hline]

theorem exists_write_describedDownward (d : String) :
    ∃ text, write [describedDownward d] Settings.default = .ok text := by
  obtain ⟨text, hwrite⟩ := exists_write_downward [moveX .relative .none] []
    (by simp [isPlainStep_moveX]) (by simp)
  obtain ⟨base, hbase⟩ := (agree_write _ Settings.default).ok hwrite
  have hsame : [downward [moveX .relative .none] []].map Probe.bare =
      [describedDownward d].map Probe.bare := by
    simp [describedDownward, downward, Probe.bare]
  rw [hsame] at hbase
  exact (agree_write [describedDownward d] Settings.default).symm.ok hbase

/-- A comment that looks like commands is none, parentheses or not. -/
theorem map_commandTexts_parenthesis :
    (write [describedDownward "Over (the stock) G0 Z-50"] Settings.default).map commandTexts =
      (write [describedDownward "Over"] Settings.default).map commandTexts := by
  refine (map_commandTexts_eq_iff (map_bare_describedDownward _ _) ?_ _).2 fun _ => ?_
  · rw [List.forall_mem_singleton, hasContained_describedDownward]
    decide
  · rw [List.forall_mem_singleton, hasContained_describedDownward]
    decide

/-- The second line of a description is a command. -/
theorem map_commandTexts_broken :
    [describedDownward "Over\nG0 Z-50"].map Probe.bare =
        [describedDownward "Over G0 Z-50"].map Probe.bare ∧
      (write [describedDownward "Over\nG0 Z-50"] Settings.default).map commandTexts ≠
        (write [describedDownward "Over G0 Z-50"] Settings.default).map commandTexts := by
  refine ⟨map_bare_describedDownward _ _, ?_⟩
  obtain ⟨text, hwrite⟩ := exists_write_describedDownward "Over\nG0 Z-50"
  obtain ⟨text', hwrite'⟩ := exists_write_describedDownward "Over G0 Z-50"
  obtain ⟨base, hbase, -, hiff⟩ := commandTexts_write_bare hwrite
  obtain ⟨base', hbase', -, hiff'⟩ := commandTexts_write_bare hwrite'
  rw [map_bare_describedDownward _ "Over G0 Z-50", hbase'] at hbase
  obtain rfl := Except.ok.inj hbase
  rw [List.forall_mem_singleton, hasContained_describedDownward] at hiff hiff'
  have hequal := hiff'.2 (by decide)
  intro h
  rw [hwrite, hwrite', Except.map, Except.map, ← hequal] at h
  have hstray := hiff.1 (Except.ok.inj h).symm
  exact absurd hstray (by decide)

end Program

end TouchProbe
