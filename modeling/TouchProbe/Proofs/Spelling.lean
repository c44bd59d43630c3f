import TouchProbe.Program.Writer
import TouchProbe.Proofs.WordNumbers

/-!
How the commands of a program are spelled: every one of them is a line of words with one blank
between them, so that what the readers say of it follows from its words.
-/

namespace TouchProbe

namespace Text

theorem upper_cons_of_eq {c : Char} (h : upperChar c = [c]) (s : List Char) :
    upper (c :: s) = c :: upper s := by
  rw [upper, List.flatMap_cons, h]
  rfl

theorem upper_eq_self {s : List Char} (h : ∀ c ∈ s, upperChar c = [c]) : upper s = s := by
  induction s with
  | nil => rfl
  | cons c s ih =>
      rw [upper_cons_of_eq (h c List.mem_cons_self),
        ih fun d hd => h d (List.mem_cons_of_mem c hd)]

end Text

namespace Program

open Text Number

/-! ### Lines of words -/

def Word.chars (w : Word) : List Char := w.letter :: w.tail

/-- Words with one blank between them. -/
def spell (ws : List Word) : List Char := [' '].intercalate (ws.map Word.chars)

/-- Whether a word is written as words are: a capital letter and the characters of a float. -/
structure Word.IsWritten (w : Word) : Prop where
  letter : isCapital w.letter = true
  tail : w.tail ⊆ floatChars

def Word.raised (w : Word) : Word := ⟨w.letter, upper w.tail⟩

@[simp] theorem spell_singleton (w : Word) : spell [w] = w.chars := by
  simp [spell, List.intercalate]

@[simp] theorem spell_cons_cons (w v : Word) (ws : List Word) :
    spell (w :: v :: ws) = w.chars ++ ' ' :: spell (v :: ws) := by
  simp [spell, List.intercalate]

theorem upperChar_of_capital {c : Char} (h : isCapital c = true) : upperChar c = [c] := by
  simp only [isCapital, Bool.and_eq_true, decide_eq_true_eq, Char.le_def,
    UInt32.le_iff_toNat_le] at h
  have h1 : 65 ≤ c.toNat ∧ c.toNat ≤ 90 := h
  have h2 : ∀ n, 65 ≤ n → n ≤ 90 → upperChar (Char.ofNat n) = [Char.ofNat n] := by decide
  have h3 := h2 c.toNat h1.1 h1.2
  rwa [Char.ofNat_toNat] at h3

theorem upper_subset_tailChars {s : List Char} (h : s ⊆ floatChars) : upper s ⊆ tailChars := by
  have h1 : ∀ c ∈ floatChars, upperChar c ⊆ tailChars :=
    List.all_iff_forall_prop.1 (by decide)
  intro d hd
  obtain ⟨c, hc, hcd⟩ := List.mem_flatMap.1 hd
  exact h1 c (h hc) hcd

theorem upper_plain {s : List Char} (h : s ⊆ plainChars) : upper s = s := by
  have h1 : ∀ c ∈ plainChars, upperChar c = [c] :=
    List.all_iff_forall_prop.1 (by decide)
  exact upper_eq_self fun c hc => h1 c (h hc)

theorem Word.IsWritten.raised {w : Word} (h : w.IsWritten) : w.raised.IsSound :=
  ⟨h.letter, upper_subset_tailChars h.tail⟩

theorem upper_chars {w : Word} (h : w.IsWritten) : upper w.chars = w.raised.chars :=
  upper_cons_of_eq (upperChar_of_capital h.letter) w.tail

/-- A line of words is spelled by them, once it is in upper case. -/
theorem spells_upper_spell {ws : List Word} (h : ∀ w ∈ ws, w.IsWritten) :
    Spells (ws.map Word.raised) (upper (spell ws)) := by
  have hblank : ∀ b ∈ [' '], isBlank b = true ∧ b ≠ '\n' :=
    List.all_iff_forall_prop.1 (by decide)
  induction ws with
  | nil => exact .nil
  | cons w ws ih =>
      have hw := h w List.mem_cons_self
      have hrec := ih fun v hv => h v (List.mem_cons_of_mem w hv)
      cases ws with
      | nil =>
          have hnone : ∀ b ∈ ([] : List Char), isBlank b = true ∧ b ≠ '\n' := by simp
          have := Spells.cons hw.raised hnone Spells.nil
          rw [List.append_nil, List.append_nil] at this
          rw [spell_singleton, upper_chars hw]
          exact this
      | cons v ws =>
          have := Spells.cons hw.raised hblank hrec
          rw [spell_cons_cons, upper_append, upper_cons_of_eq (by decide), upper_chars hw]
          exact this

theorem not_blank_of_mem_chars {w : Word} (h : w.IsWritten) :
    ∀ c ∈ w.chars, isBlank c = false ∧ c ≠ '(' ∧ c ≠ '\n' := by
  have h1 : ∀ c ∈ floatChars, isBlank c = false ∧ c ≠ '(' ∧ c ≠ '\n' :=
    List.all_iff_forall_prop.1 (by decide)
  intro c hc
  rcases List.mem_cons.1 hc with rfl | hc
  · refine ⟨isBlank_of_capital h.letter, ?_, ?_⟩ <;>
    · intro q
      exact absurd h.letter (by rw [q]; decide)
  · exact h1 c (h.tail hc)

theorem spell_ne_nil {ws : List Word} (h : ws ≠ []) : spell ws ≠ [] := by
  obtain ⟨w, ws, rfl⟩ := List.exists_cons_of_ne_nil h
  cases ws <;> simp [Word.chars]

theorem mem_spell {ws : List Word} {c : Char} (h : c ∈ spell ws) :
    c = ' ' ∨ ∃ w ∈ ws, c ∈ w.chars := by
  induction ws with
  | nil => cases h
  | cons w ws ih =>
      cases ws with
      | nil =>
          rw [spell_singleton] at h
          exact .inr ⟨w, List.mem_cons_self, h⟩
      | cons v ws =>
          rw [spell_cons_cons, List.mem_append, List.mem_cons] at h
          rcases h with h | h | h
          · exact .inr ⟨w, List.mem_cons_self, h⟩
          · exact .inl h
          · exact (ih h).imp_right fun ⟨u, hu, hc⟩ => ⟨u, List.mem_cons_of_mem w hu, hc⟩

theorem getLast?_spell {ws : List Word} (h : ∀ w ∈ ws, w.IsWritten) :
    ∀ d ∈ (spell ws).getLast?, isBlank d = false := by
  induction ws with
  | nil => simp [spell, List.intercalate]
  | cons w ws ih =>
      cases ws with
      | nil =>
          intro d hd
          rw [spell_singleton] at hd
          exact (not_blank_of_mem_chars (h w List.mem_cons_self) d (List.mem_of_getLast? hd)).1
      | cons v ws =>
          have hrec := ih fun u hu => h u (List.mem_cons_of_mem w hu)
          have hne : spell (v :: ws) ≠ [] := spell_ne_nil (List.cons_ne_nil v ws)
          intro d hd
          rw [spell_cons_cons, ← List.singleton_append, ← List.append_assoc,
            List.getLast?_append_of_ne_nil _ hne] at hd
          exact hrec d hd

theorem isCommand_spell {ws : List Word} (hne : ws ≠ []) (h : ∀ w ∈ ws, w.IsWritten) :
    IsCommand (spell ws) := by
  have hmem {c : Char} (hc : c ∈ spell ws) : c ≠ '(' ∧ c ≠ '\n' := by
    rcases mem_spell hc with rfl | ⟨w, hw, hc⟩
    · decide
    · exact (not_blank_of_mem_chars (h w hw) c hc).2
  refine ⟨spell_ne_nil hne, trim_eq_self ?_ (getLast?_spell h), fun hc => (hmem hc).1 rfl,
    fun hc => (hmem hc).2 rfl⟩
  obtain ⟨w, ws, rfl⟩ := List.exists_cons_of_ne_nil hne
  have hhead : (spell (w :: ws)).head? = some w.letter := by
    cases ws <;> simp [Word.chars]
  rw [hhead]
  rintro c ⟨⟩
  exact isBlank_of_capital (h w List.mem_cons_self).letter

/-! ### The words of commands -/

def numberWord (letter : Char) (x : Float) : Word := ⟨letter, (writeFloat x).toList⟩

def commandWord (letter : Char) (number : String) : Word := ⟨letter, number.toList⟩

def modeWords : PositionMode → List Word
  | .relative => [commandWord 'G' "91"]
  | .absolute => [commandWord 'G' "90"]
  | .none => []

def systemWords : CoordinateSystem → List Word
  | .machine => [commandWord 'G' "53"]
  | .wcs => [commandWord 'G' "54"]
  | .none => []

def rapidWords (mode : PositionMode) (system : CoordinateSystem) (es : List (Axis × Float)) :
    List Word :=
  commandWord 'G' "0" :: (modeWords mode ++ systemWords system ++
    es.map fun e => numberWord e.1.letter e.2)

def startWords (a : Axis) (x : Float) : List Word :=
  [commandWord 'G' "90", commandWord 'G' "53", commandWord 'G' "0", numberWord a.letter x]

def spindleWords (x : Float) : List Word := [numberWord 'S' x, commandWord 'M' "4"]

def pauseWords (x : Float) : List Word := [commandWord 'G' "4", numberWord 'P' x]

def probeWords (a : Axis) (negative : Bool) (distance feed : Float) : List Word :=
  [commandWord 'G' "38.2", ⟨a.letter, signChars negative ++ (writeFloat distance).toList⟩,
    numberWord 'F' feed]

def originWords (a : Axis) (x : Float) : List Word :=
  [commandWord 'G' "10", commandWord 'L' "20", commandWord 'P' "1", numberWord a.letter x]

theorem isCapital_letter (a : Axis) : isCapital a.letter = true := by cases a <;> decide

theorem isWritten_numberWord {letter : Char} (h : isCapital letter = true) (x : Float) :
    (numberWord letter x).IsWritten :=
  ⟨h, writeFloat_subset x⟩

theorem isWritten_modeWords (mode : PositionMode) : ∀ w ∈ modeWords mode, w.IsWritten := by
  have h : ∀ w ∈ modeWords mode, isCapital w.letter = true ∧ w.tail ⊆ floatChars := by
    cases mode <;> decide
  exact fun w hw => ⟨(h w hw).1, (h w hw).2⟩

theorem isWritten_systemWords (system : CoordinateSystem) :
    ∀ w ∈ systemWords system, w.IsWritten := by
  have h : ∀ w ∈ systemWords system, isCapital w.letter = true ∧ w.tail ⊆ floatChars := by
    cases system <;> decide
  exact fun w hw => ⟨(h w hw).1, (h w hw).2⟩

theorem isWritten_rapidWords (mode : PositionMode) (system : CoordinateSystem)
    (es : List (Axis × Float)) : ∀ w ∈ rapidWords mode system es, w.IsWritten := by
  intro w hw
  rw [rapidWords, List.mem_cons, List.mem_append, List.mem_append, List.mem_map] at hw
  rcases hw with rfl | (hw | hw) | ⟨e, -, rfl⟩
  · exact ⟨by decide, by decide⟩
  · exact isWritten_modeWords mode w hw
  · exact isWritten_systemWords system w hw
  · exact isWritten_numberWord (isCapital_letter e.1) e.2

theorem isWritten_startWords (a : Axis) (x : Float) : ∀ w ∈ startWords a x, w.IsWritten := by
  simp only [startWords, List.forall_mem_cons]
  exact ⟨⟨by decide, by decide⟩, ⟨by decide, by decide⟩, ⟨by decide, by decide⟩,
    isWritten_numberWord (isCapital_letter a) x, by simp⟩

theorem isWritten_spindleWords (x : Float) : ∀ w ∈ spindleWords x, w.IsWritten := by
  simp only [spindleWords, List.forall_mem_cons]
  exact ⟨isWritten_numberWord (by decide) x, ⟨by decide, by decide⟩, by simp⟩

theorem isWritten_pauseWords (x : Float) : ∀ w ∈ pauseWords x, w.IsWritten := by
  simp only [pauseWords, List.forall_mem_cons]
  exact ⟨⟨by decide, by decide⟩, isWritten_numberWord (by decide) x, by simp⟩

theorem isWritten_probeWords (a : Axis) (negative : Bool) (distance feed : Float) :
    ∀ w ∈ probeWords a negative distance feed, w.IsWritten := by
  simp only [probeWords, List.forall_mem_cons]
  refine ⟨⟨by decide, by decide⟩, ⟨isCapital_letter a, List.append_subset.2 ⟨?_, writeFloat_subset _⟩⟩,
    isWritten_numberWord (by decide) feed, by simp⟩
  cases negative <;> decide

theorem isWritten_originWords (a : Axis) (x : Float) : ∀ w ∈ originWords a x, w.IsWritten := by
  simp only [originWords, List.forall_mem_cons]
  exact ⟨⟨by decide, by decide⟩, ⟨by decide, by decide⟩, ⟨by decide, by decide⟩,
    isWritten_numberWord (isCapital_letter a) x, by simp⟩

theorem toList_name (a : Axis) : a.name.toList = [a.letter] := by cases a <;> rfl

theorem toList_rapid (mode : PositionMode) (system : CoordinateSystem) (es : List (Axis × Float)) :
    (" ".intercalate ("G0" :: modeWord mode ++ systemWord system ++
      es.map fun e => e.1.name ++ writeFloat e.2)).toList = spell (rapidWords mode system es) := by
  have hmode : (modeWord mode).map String.toList = (modeWords mode).map Word.chars := by
    cases mode <;> rfl
  have hsystem : (systemWord system).map String.toList = (systemWords system).map Word.chars := by
    cases system <;> rfl
  rw [String.toList_intercalate, spell, rapidWords]
  simp [hmode, hsystem, toList_name, Word.chars, numberWord, commandWord, Function.comp_def]

@[simp] theorem toString_string (s : String) : toString s = s := rfl

theorem toList_start (a : Axis) (x : Float) :
    s!"G90 G53 G0 {a.name}{writeFloat x}".toList = spell (startWords a x) := by
  simp [startWords, toList_name, Word.chars, numberWord, commandWord]

theorem toList_spindle (x : Float) :
    s!"S{writeFloat x} M4".toList = spell (spindleWords x) := by
  simp [spindleWords, Word.chars, numberWord, commandWord]

theorem toList_pause (x : Float) : s!"G4 P{writeFloat x}".toList = spell (pauseWords x) := by
  simp [pauseWords, Word.chars, numberWord, commandWord]

/-- The sign of the travel of a probe, as it is written. -/
def signText (negative : Bool) : String := if negative then "-" else ""

theorem toList_probe (a : Axis) (negative : Bool) (distance feed : Float) :
    s!"G38.2 {a.name}{signText negative}{writeFloat distance} F{writeFloat feed}".toList =
      spell (probeWords a negative distance feed) := by
  cases negative <;>
    simp [probeWords, toList_name, Word.chars, numberWord, commandWord, signChars, signText]

theorem toList_origin (a : Axis) (x : Float) :
    s!"G10 L20 P1 {a.name}{writeFloat x}".toList = spell (originWords a x) := by
  simp [originWords, toList_name, Word.chars, numberWord, commandWord]

theorem toList_backoff (a : Axis) (x : Float) :
    s!"G0 G91 {a.name}{writeFloat x}".toList = spell (rapidWords .relative .none [(a, x)]) := by
  simp [rapidWords, modeWords, systemWords, toList_name, Word.chars, numberWord, commandWord]

end Program

end TouchProbe
