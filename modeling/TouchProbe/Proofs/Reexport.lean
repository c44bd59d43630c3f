import TouchProbe.Proofs.Checks
import TouchProbe.Proofs.RoundTrip
import TouchProbe.Proofs.SameProgram
import TouchProbe.Sequence.Edit

/-!
Exporting what was imported.  Whatever program the operations and the settings come from, the
program that is written of them is a fixed point: it is read as a sequence that has the same program
again.

What is read from any program is fit to be written: its descriptions stand in comments, its lengths
and feed rates have no sign, and a probe of length zero goes forward.
-/

namespace TouchProbe.Program

open Text Number State

/-! ### Descriptions -/

theorem subset_of_untilLastClosing {s d : List Char} (h : untilLastClosing s = some d) : d ⊆ s := by
  rw [untilLastClosing] at h
  split at h
  · next c r hr =>
    obtain rfl := Option.some.inj h
    intro b hb
    have hmem : b ∈ s.reverse.dropWhile (· != ')') := by
      rw [hr]
      exact List.mem_cons_of_mem c (List.mem_reverse.1 hb)
    exact List.mem_reverse.1 ((List.dropWhile_sublist _).subset hmem)
  · cases h

theorem newline_not_mem_commentAt? {s c : List Char} (h : commentAt? s = some c) : '\n' ∉ c := by
  rw [commentAt?.eq_def] at h
  split at h
  · next b s =>
    split at h
    · cases h
    · next hb =>
      obtain ⟨d, hd, rfl⟩ := Option.map_eq_some_iff.1 h
      intro hmem
      rcases List.mem_cons.1 hmem with rfl | hmem
      · exact hb rfl
      · have hline := List.mem_takeWhile_imp (subset_of_untilLastClosing hd hmem)
        simp at hline
  · cases h

theorem trim_sublist (s : List Char) : (trim s).Sublist s := by
  have hstart : (trimStart s).Sublist s := List.dropWhile_sublist _
  exact (trimEnd_sublist (trimStart s)).trans hstart

/-- The comment of a line is a description. -/
theorem isDescription_comment? {line c : List Char} (h : comment? line = some c) :
    IsDescription (.text (String.ofList c)) := by
  rw [comment?] at h
  split at h
  · next d hd =>
    split at h
    · cases h
    · next hne =>
      obtain rfl := Option.some.inj h
      obtain ⟨t, ht⟩ := exists_of_firstAnywhere hd
      refine ⟨_, rfl, ?_, ?_, ?_⟩
      · rw [String.toList_ofList]
        exact fun hnil => hne (by rw [hnil]; rfl)
      · rw [String.toList_ofList, trim_trim]
      · rw [String.toList_ofList]
        exact fun hmem => newline_not_mem_commentAt? ht ((trim_sublist d).subset hmem)
  · cases h

theorem isDescription_describe {text : List Char} {made : String} (h : IsDescription (.text made)) :
    IsDescription (.text (describe text made)) := by
  rw [describe]
  cases hc : comment? text with
  | none => exact h
  | some c => exact isDescription_comment? hc

def wordsOf (vs : ByAxis Float) : List Word := vs.entries.map fun e => numberWord e.1.letter e.2

theorem toList_axisWords (vs : ByAxis Float) : (State.axisWords vs).toList = spell (wordsOf vs) := by
  rw [State.axisWords, String.toList_intercalate, spell, wordsOf]
  simp [toList_name, Word.chars, numberWord, Function.comp_def]

theorem isWritten_wordsOf (vs : ByAxis Float) : ∀ w ∈ wordsOf vs, w.IsWritten := by
  intro w hw
  obtain ⟨e, -, rfl⟩ := List.mem_map.1 hw
  exact isWritten_numberWord (isCapital_letter e.1) e.2

theorem trim_append {s t : List Char} (hs : s ≠ []) (ht : t ≠ [])
    (hhead : ∀ c ∈ s.head?, isBlank c = false) (hlast : ∀ d ∈ t.getLast?, isBlank d = false) :
    trim (s ++ t) = s ++ t := by
  apply trim_eq_self
  · rwa [List.head?_append_of_ne_nil _ hs]
  · rwa [List.getLast?_append_of_ne_nil _ ht]

/-- The description that is made for a rapid move. -/
theorem isDescription_rapid {vs : ByAxis Float} (h : vs.isEmpty = false) :
    IsDescription (.text ("Rapid move to " ++ State.axisWords vs)) := by
  have hwords : wordsOf vs ≠ [] := by
    rw [wordsOf, ne_eq, List.map_eq_nil_iff, ← List.isEmpty_iff, ← ByAxis.isEmpty, h]
    exact Bool.false_ne_true
  have hcommand := isCommand_spell hwords (isWritten_wordsOf vs)
  refine ⟨_, rfl, ?_, ?_, ?_⟩
  · rw [String.toList_append]
    exact List.append_ne_nil_of_left_ne_nil (by decide) _
  · rw [String.toList_append, toList_axisWords]
    refine trim_append (by decide) hcommand.nonempty ?_ (getLast?_spell (isWritten_wordsOf vs))
    intro c hc
    obtain rfl : 'R' = c := Option.some.inj hc
    decide
  · rw [String.toList_append, toList_axisWords, List.mem_append, not_or]
    exact ⟨by decide, hcommand.noNewline⟩

/-- The description that is made for a pause. -/
theorem isDescription_dwell (x : Float) :
    IsDescription (.text s!"Dwell for {writeFloat x} seconds") := by
  have hchars : (s!"Dwell for {writeFloat x} seconds").toList =
      ("Dwell for ".toList ++ (writeFloat x).toList) ++ " seconds".toList := by
    simp [String.toList_append]
  have hnumber : '\n' ∉ (writeFloat x).toList := fun hmem =>
    absurd (writeFloat_subset x hmem) (by decide)
  refine ⟨_, rfl, ?_, ?_, ?_⟩
  · rw [hchars]
    exact List.append_ne_nil_of_right_ne_nil _ (by decide)
  · rw [hchars]
    refine trim_append (List.append_ne_nil_of_left_ne_nil (by decide) _) (by decide) ?_ ?_
    · rw [List.head?_append_of_ne_nil _ (by decide)]
      intro c hc
      obtain rfl : 'D' = c := Option.some.inj hc
      decide
    · intro c hc
      obtain rfl : 's' = c := Option.some.inj hc
      decide
  · rw [hchars, List.mem_append, List.mem_append, not_or, not_or]
    exact ⟨⟨by decide, hnumber⟩, by decide⟩

/-! ### What is read is fit to be written -/

def stepNumbers : Step → List Datum
  | .rapid r => match r.axes with
    | .values vs => vs.entries.map Prod.snd
    | .names _ | .letters _ => []
  | .dwell d => [.scalar d.time]

def probeNumbers (p : Probe) : List Datum :=
  [.scalar p.distance, p.feedRate, .scalar p.backoff, p.offset] ++
    (p.preMoves ++ p.postMoves).flatMap stepNumbers

/-- Whether a step is no pause that stands for nothing or for the emptying of the motion buffer. -/
def isOwnStep : Step → Bool
  | .rapid _ => true
  | .dwell d => !isZero (floatOf (.scalar d.time)) && !(floatOf (.scalar d.time) == clearingPause)

/-- A step that was read from a line is shown in full by one. -/
theorem isPlainStep_of_moveLine {lines : List (List Char)} {k : Nat} {line : List Char} {m : Step}
    (h : MoveLine lines k line m) (hnumbers : ∀ d ∈ stepNumbers m, IsPlainNumber d)
    (hown : isOwnStep m = true) : IsPlainStep m := by
  cases h with
  | rapid isRapid hasAxes =>
      refine ⟨isDescription_describe (isDescription_rapid hasAxes), _, rfl, ?_, fun e he => ?_⟩
      · rw [ByAxis.isEmpty] at hasAxes ⊢
        rw [ByAxis.map, List.isEmpty_map, hasAxes]
      · exact hnumbers e.2 (List.mem_map_of_mem he)
  | @dwell time isDwell isFree hasTime =>
      rw [dwellStep, isOwnStep, Bool.and_eq_true, Bool.not_eq_true', Bool.not_eq_true'] at hown
      obtain ⟨hne, hclears⟩ := hown
      have hplain : IsPlainNumber (.float time) := hnumbers _ List.mem_cons_self
      refine ⟨isDescription_describe (isDescription_dwell time), hplain, ?_, hclears⟩
      exact zero_lt_of_le (zero_le_letterValue? hasTime) hne

theorem exists_of_mem_right {α β : Type} {R : α → β → Prop} {l : List α} {l' : List β}
    (h : List.Forall₂ R l l') {b : β} (hb : b ∈ l') : ∃ a ∈ l, R a b := by
  induction h with
  | nil => cases hb
  | @cons a c l l' hac _ ih =>
      rcases List.mem_cons.1 hb with rfl | hb
      · exact ⟨a, List.mem_cons_self, hac⟩
      · obtain ⟨d, hd, hdb⟩ := ih hb
        exact ⟨d, List.mem_cons_of_mem a hd, hdb⟩

/-- The moves of a probe operation that is read are read from lines. -/
theorem moveLine_of_mem_probes {text : String} {p : Probe} (hp : p ∈ (read text).probes) {m : Step}
    (hm : m ∈ p.preMoves ++ p.postMoves) : ∃ k line, MoveLine (linesOf text) k line m := by
  obtain ⟨sources, early, dropped, late, left, hconserves⟩ := exists_conserves text
  obtain ⟨source, hsource, hof⟩ := exists_of_mem_right hconserves.probes hp
  rw [hof.preMoves, hof.postMoves, ← List.map_append] at hm
  obtain ⟨move, hmove, rfl⟩ := List.mem_map.1 hm
  have hshare : move ∈ early ++ late := by
    rw [← hconserves.shares]
    exact List.mem_flatMap.2 ⟨source, hsource, hmove⟩
  have hmem : move ∈ moveLines (linesOf text) := by
    rw [hconserves.moves]
    rcases List.mem_append.1 hshare with h | h <;> simp [h]
  obtain ⟨line, -, -, hline⟩ := moveLine_of_mem hmem
  exact ⟨move.1, line, hline⟩

/-- Whether a probe operation is one that is read: it is shown in full, forward over no distance,
and the surface gets no coordinate below zero. -/
structure IsReadProbe (p : Probe) : Prop extends IsPlainProbe p where
  forward : isZero (floatOf (.scalar p.distance)) = true → p.isForward = true
  offset_nonneg : zero ≤ floatOf p.offset

/-- A probe operation that is read is shown in full by its lines. -/
theorem isReadProbe_of_mem {text : String} {p : Probe} (hp : p ∈ (read text).probes)
    (hnumbers : ∀ d ∈ probeNumbers p, IsPlainNumber d)
    (hown : ∀ m ∈ p.preMoves ++ p.postMoves, isOwnStep m = true) : IsReadProbe p := by
  have hmoves : ∀ m ∈ p.preMoves ++ p.postMoves, IsPlainStep m := by
    intro m hm
    obtain ⟨k, line, hline⟩ := moveLine_of_mem_probes hp hm
    refine isPlainStep_of_moveLine hline (fun d hd => ?_) (hown m hm)
    exact hnumbers d (List.mem_append_right _ (List.mem_flatMap.2 ⟨m, hm, hd⟩))
  have hdistance : IsPlainNumber (.scalar p.distance) := hnumbers _ (by simp [probeNumbers])
  have hfeedRate : IsPlainNumber p.feedRate := hnumbers _ (by simp [probeNumbers])
  have hback : IsPlainNumber (.scalar p.backoff) := hnumbers _ (by simp [probeNumbers])
  have horigin : IsPlainNumber p.offset := hnumbers _ (by simp [probeNumbers])
  obtain ⟨q, hq, moves, rfl⟩ := exists_isSound_of_mem_probes hp
  exact {
    distance := hdistance
    distance_nonneg := hq.distance
    feedRate := hfeedRate
    feedRate_pos := hq.feedRate
    backoff := hback
    backoff_nonneg := hq.zero_le_backoff
    offset := horigin
    preMoves := fun m hm => hmoves m (List.mem_append_left _ hm)
    postMoves := fun m hm => hmoves m (List.mem_append_right _ hm)
    forward := fun hzero => by rw [Probe.isForward, OpenProbe.close, hq.forward hzero]; rfl
    offset_nonneg := hq.zero_le_offset }

/-! ### What is read again has the same program -/

theorem sameWord_rereadNumber {d : Datum} (h : IsPlainNumber d) : SameWord (rereadNumber d) d where
  isNumber := h.number.symm
  word := by
    rw [rereadNumber, writeNumber_eq h]
    exact congrArg Except.ok (writeFloat_settled _)

theorem stepLine?_rereadStep {s : Step} (h : IsPlainStep s) :
    stepLine? (rereadStep s) = stepLine? s := by
  cases s with
  | rapid r =>
      obtain ⟨-, vs, hvs, -, hnumbers⟩ := h
      have haxes : rereadAxes r.axes = .values (vs.map rereadNumber) := by
        rw [hvs]
        rfl
      rw [rereadStep, haxes]
      exact stepLine?_rapid_congr hvs (fun e he => sameWord_rereadNumber (hnumbers e he)) .made
  | dwell d =>
      obtain ⟨-, htime, hpos, -⟩ := h
      rw [rereadStep]
      refine stepLine?_dwell_congr ?_ (sameWord_rereadNumber htime).word .made
      have hsettled := (isPlain_pos_settled htime.plain hpos).1
      have hfloat : IsPlainNumber (.float (floatOf (.scalar d.time))) := ⟨rfl, rfl, htime.plain⟩
      rw [hsettled, isTruthy_of_pos hfloat hpos, isTruthy_of_pos htime hpos]

theorem map_stepLine?_rereadStep {steps : List Step} (h : ∀ s ∈ steps, IsPlainStep s) :
    (steps.map rereadStep).map stepLine? = steps.map stepLine? := by
  rw [List.map_map]
  exact List.map_congr_left fun s hs => stepLine?_rereadStep (h s hs)

theorem writesAs_rereadProbe {p : Probe} (h : IsReadProbe p) : WritesAs (rereadProbe p) p where
  axis := rfl
  forward := by
    have hforward : (rereadProbe p).isForward = readsForward p := by
      rw [Probe.isForward, rereadProbe]
      cases readsForward p <;> rfl
    rw [hforward, readsForward]
    cases hzero : isZero (floatOf (.scalar p.distance)) with
    | false => exact Bool.or_false _
    | true => rw [h.forward hzero, Bool.true_or]
  distance := (sameWord_rereadNumber h.distance).word
  feedRate := (sameWord_rereadNumber h.feedRate).word
  backoff := (sameWord_rereadNumber h.backoff).word
  offset := by
    rw [rereadProbe, abs_settled h.offset.plain h.offset_nonneg]
    exact (sameWord_rereadNumber h.offset).word
  preMoves := map_stepLine?_rereadStep h.preMoves
  postMoves := map_stepLine?_rereadStep h.postMoves

/-- The speed that is read for a spindle speed is written as the speed is. -/
theorem writeNumber_speed {settings : Settings} (h : IsPlainHead settings) :
    ∃ k, truncate? (settled (floatOf settings.spindle)) = some k ∧
      writeNumber (.int k) = writeNumber settings.spindle := by
  obtain ⟨k, hk, hfloat⟩ := toFloat_truncate? h.spindle_whole
  refine ⟨k, hk, ?_⟩
  rw [writeNumber_eq h.spindle, writeNumber, hfloat, Except.map, writeFloat_settled]

/-- Settings that have taken over the head of a program show as those that it was written with, if
they already do in what is not taken over: a speed of zero, and a number of pauses where there are
none. -/
theorem headsAs_applyReading {settings base : Settings} {r : Reading} (hhead : IsPlainHead settings)
    (hstart : r.start = State.startPosition (startRead settings))
    (hspindle : r.spindle = truncate? (settled (floatOf settings.spindle)))
    (hunits : r.units = some settings.units)
    (hspeed : truncate? (floatOf settings.spindle) = some 0 →
      writeNumber base.spindle = writeNumber settings.spindle)
    (hdwells : pauseCount (Edit.applyReading base r).dwells = pauseCount settings.dwells) :
    HeadsAs (Edit.applyReading base r) settings := by
  obtain ⟨q, hq, hget⟩ := startPosition_startRead hhead
  obtain ⟨k, hk, hwritten⟩ := writeNumber_speed hhead
  constructor
  · intro a
    rw [Edit.applyReading, hstart, hq, Option.getD_some, hget]
    exact (sameWord_rereadNumber (hhead.start a)).word
  · simp only [Edit.applyReading, hspindle, hk]
    split
    · next hzero => exact hspeed (by rw [← whole_settled.2, hk, hzero])
    · exact hwritten
  · rw [Edit.applyReading, hunits]
    rfl
  · exact hdwells

/-- The number of pauses shows only in programs that probe. -/
theorem write_nil (s : Settings) (dwells : Datum) : write [] { s with dwells } = write [] s := rfl

/-- What is read of the program of operations and settings that are shown in full. -/
structure Rereads (ops : List Probe) (settings : Settings) (count : Nat) (r : Reading) : Prop where
  probes : r.probes = ops.map rereadProbe
  start : r.start = State.startPosition (startRead settings)
  spindle : r.spindle = truncate? (settled (floatOf settings.spindle))
  units : r.units = some settings.units
  problems : r.problems = []
  assumptions : r.assumptions = []
  dwells : ops ≠ [] → r.dwells = some count

/-- All of what is read is given, if anything probes. -/
theorem Rereads.eq {ops : List Probe} {settings : Settings} {count : Nat} {r : Reading}
    (h : Rereads ops settings count r) (hne : ops ≠ []) :
    r = {
      probes := ops.map rereadProbe
      start := State.startPosition (startRead settings)
      dwells := some count
      spindle := truncate? (settled (floatOf settings.spindle))
      units := some settings.units
      problems := []
      assumptions := [] } := by
  rw [← h.probes, ← h.start, ← h.spindle, ← h.units, ← h.problems, ← h.dwells hne]
  conv => rhs; rw [← h.assumptions]

theorem exists_rereads {ops : List Probe} {settings : Settings} {count : Nat}
    (hops : ∀ p ∈ ops, IsPlainProbe p) (hhead : IsPlainHead settings)
    (hdwells : pauseCount settings.dwells = .ok count) (hcount : 2 ≤ count) :
    ∃ program, write ops settings = .ok program ∧ Rereads ops settings count (read program) := by
  obtain ⟨program, hwrite, hread⟩ := exists_write hops hhead.hasFloats hdwells hcount
  obtain ⟨pending, hlead⟩ := leads_plainHead hhead
  have hfresh := isFresh_headed settings.units (startRead settings)
    (truncate? (settled (floatOf settings.spindle))) [] pending
  obtain ⟨st, hbecame, hst⟩ := hread _ hfresh hlead
  obtain ⟨hstart, hspindle, hunits, hproblems, hassumptions, hpauses⟩ := reading_of_became hbecame
  refine ⟨program, hwrite, ?_⟩
  rw [hst]
  exact ⟨closeProbe_of_became hfresh hbecame, hstart, hspindle, hunits, hproblems, hassumptions, hpauses⟩

/-- Operations as they are read, under settings that have taken over what was read, have the program
that was read as theirs.  A speed of zero is not taken over, so the one that stays must show as
it. -/
theorem Rereads.write_eq {ops : List Probe} {settings : Settings} {count : Nat} {r : Reading}
    (h : Rereads ops settings count r) (hops : ∀ p ∈ ops, IsReadProbe p) (hhead : IsPlainHead settings)
    (hdwells : pauseCount settings.dwells = .ok count) (hcount : 2 ≤ count) {base : Settings}
    (hspeed : truncate? (floatOf settings.spindle) = some 0 →
      writeNumber base.spindle = writeNumber settings.spindle) :
    write r.probes (Edit.applyReading base r) = write ops settings := by
  have hsame : List.Forall₂ WritesAs r.probes ops := by
    rw [h.probes, List.forall₂_map_left_iff, List.forall₂_same]
    exact fun p hp => writesAs_rereadProbe (hops p hp)
  rcases List.eq_nil_or_concat ops with rfl | ⟨before, p, hp⟩
  · -- Nothing probes, so the number of pauses may be any.
    rw [List.forall₂_nil_right_iff.1 hsame, ← write_nil _ settings.dwells]
    have hheads : HeadsAs (Edit.applyReading { base with dwells := settings.dwells }
        { r with dwells := none }) settings :=
      headsAs_applyReading hhead h.start h.spindle h.units hspeed rfl
    exact write_congr .nil { hheads with dwells := rfl }
  · have hsome : r.dwells = some count := h.dwells (by simp [hp])
    refine write_congr hsame (headsAs_applyReading hhead h.start h.spindle h.units hspeed ?_)
    simp only [Edit.applyReading, hsome, hdwells, if_neg (show count ≠ 0 by omega)]
    rfl

/-- Operations and settings as they are read have the program that is read again as theirs. -/
theorem write_applyReading {ops : List Probe} {settings : Settings} {count : Nat}
    (hops : ∀ p ∈ ops, IsReadProbe p) (hhead : IsPlainHead settings)
    (hdwells : pauseCount settings.dwells = .ok count) (hcount : 2 ≤ count) :
    ∃ program, write ops settings = .ok program ∧
      write (read program).probes (Edit.applyReading settings (read program)) = .ok program := by
  have hplain : ∀ p ∈ ops, IsPlainProbe p := fun p hp => (hops p hp).toIsPlainProbe
  obtain ⟨program, hwrite, hread⟩ := exists_rereads hplain hhead hdwells hcount
  refine ⟨program, hwrite, ?_⟩
  rw [hread.write_eq hops hhead hdwells hcount fun _ => rfl]
  exact hwrite

/-- Exporting an import is settled at once: the program that is written of what was read from any
program, with settings that took over those of the program, is read and written as itself. -/
theorem write_read_write {text : String} {s : Settings} {count : Nat}
    (hnumbers : ∀ p ∈ (read text).probes, ∀ d ∈ probeNumbers p, IsPlainNumber d)
    (hown : ∀ p ∈ (read text).probes, ∀ m ∈ p.preMoves ++ p.postMoves, isOwnStep m = true)
    (hhead : IsPlainHead (Edit.applyReading s (read text)))
    (hdwells : pauseCount (Edit.applyReading s (read text)).dwells = .ok count) (hcount : 2 ≤ count) :
    ∃ program, write (read text).probes (Edit.applyReading s (read text)) = .ok program ∧
      write (read program).probes
        (Edit.applyReading (Edit.applyReading s (read text)) (read program)) = .ok program := by
  have hops : ∀ p ∈ (read text).probes, IsReadProbe p := fun p hp =>
    isReadProbe_of_mem hp (hnumbers p hp) (hown p hp)
  exact write_applyReading hops hhead hdwells hcount

/-- A program in inches of two probes, with a move, a pause and no retreats. -/
theorem write_read_write_foreign :
    ∃ program,
      write (read "g20\ng0 x-.50 (Over)\ng38.2 z-0 f8\ng4 p1\nG38.2X2").probes
        (Edit.applyReading .default
          (read "g20\ng0 x-.50 (Over)\ng38.2 z-0 f8\ng4 p1\nG38.2X2")) = .ok program ∧
      write (read program).probes
        (Edit.applyReading (Edit.applyReading .default
          (read "g20\ng0 x-.50 (Over)\ng38.2 z-0 f8\ng4 p1\nG38.2X2")) (read program)) =
        .ok program := by
  have hstart : ∀ a ∈ Axis.all, IsPlainNumber ((Edit.applyReading .default
      (read "g20\ng0 x-.50 (Over)\ng38.2 z-0 f8\ng4 p1\nG38.2X2")).start.get a) := by decide +kernel
  have hdwells : pauseCount (Edit.applyReading .default
      (read "g20\ng0 x-.50 (Over)\ng38.2 z-0 f8\ng4 p1\nG38.2X2")).dwells = .ok 15 := rfl
  refine write_read_write ?_ ?_ ⟨fun a => hstart a a.mem_all, ?_, ?_, ?_⟩ hdwells (by decide)
  · decide +kernel
  · decide +kernel
  · decide +kernel
  · decide +kernel
  · decide +kernel

end TouchProbe.Program
