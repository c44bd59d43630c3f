import TouchProbe.Proofs.Spelling
import TouchProbe.Sequence.Axis

/-!
What the readers say of the commands that are written: the kind of each of them, its mode and
system, and its numbers.
-/

namespace TouchProbe

namespace ByAxis

variable {α : Type}

theorem setEntry_of_not_mem {a : Axis} {v : α} {es : List (Axis × α)}
    (h : a ∉ es.map (·.1)) : setEntry a v es = es ++ [(a, v)] := by
  induction es with
  | nil => rfl
  | cons e es ih =>
      rw [List.map_cons, List.mem_cons, not_or] at h
      rw [setEntry, if_neg (Ne.symm h.1), ih h.2, List.cons_append]

theorem entries_foldl_set {es : List (Axis × α)} {vs : ByAxis α}
    (h : (vs.entries.map (·.1) ++ es.map (·.1)).Nodup) :
    (es.foldl (fun vs e => vs.set e.1 e.2) vs).entries = vs.entries ++ es := by
  induction es generalizing vs with
  | nil => simp
  | cons e es ih =>
      have hnot : e.1 ∉ vs.entries.map (·.1) := by
        intro hmem
        exact (List.nodup_append.1 h).2.2 _ hmem _ List.mem_cons_self rfl
      have hset : (vs.set e.1 e.2).entries = vs.entries ++ [e] := setEntry_of_not_mem hnot
      rw [List.foldl_cons, ih, hset]
      · simp
      · rw [hset]
        simpa using h

/-- Values that name each axis once are kept as they are. -/
theorem entries_ofList {es : List (Axis × α)} (h : (es.map (·.1)).Nodup) :
    (ofList es).entries = es := by
  have h' : ((empty : ByAxis α).entries.map (·.1) ++ es.map (·.1)).Nodup := by simpa [empty] using h
  exact (entries_foldl_set h').trans (List.nil_append es)

@[simp] theorem ofList_entries (vs : ByAxis α) : ofList vs.entries = vs :=
  ByAxis.ext (entries_ofList vs.nodup)

theorem mem_of_mem_setEntry {a : Axis} {v : α} {es : List (Axis × α)} {e : Axis × α}
    (h : e ∈ setEntry a v es) : e = (a, v) ∨ e ∈ es := by
  induction es with
  | nil => exact .inl (List.mem_singleton.1 h)
  | cons f es ih =>
      rw [setEntry] at h
      split at h
      · exact (List.mem_cons.1 h).imp_right (List.mem_cons_of_mem f)
      · rcases List.mem_cons.1 h with rfl | h
        · exact .inr List.mem_cons_self
        · exact (ih h).imp_right (List.mem_cons_of_mem f)

theorem mem_of_mem_ofList {es : List (Axis × α)} {e : Axis × α}
    (h : e ∈ (ofList es).entries) : e ∈ es := by
  -- By induction on the entries, after any values that were set before.
  have hfold (es : List (Axis × α)) (vs : ByAxis α)
      (h : e ∈ (es.foldl (fun vs e => vs.set e.1 e.2) vs).entries) : e ∈ vs.entries ∨ e ∈ es := by
    induction es generalizing vs with
    | nil => exact .inl h
    | cons f es ih =>
        rcases ih (vs.set f.1 f.2) h with h | h
        · exact (mem_of_mem_setEntry h).symm.imp_right fun h => List.mem_cons.2 (.inl h)
        · exact .inr (List.mem_cons_of_mem f h)
  exact (hfold es .empty h).resolve_left List.not_mem_nil

end ByAxis

namespace Program

open Text Number

/-! ### Words that tell commands apart -/

/-- Whether the letter of a word is one that commands are told apart by. -/
def Word.isActive (w : Word) : Bool := commandLetters.contains w.letter

theorem ne_of_not_active {w : Word} (h : w.isActive = false) {c : Char}
    (hc : c ∈ commandLetters) : (w.letter == c) = false := by
  apply beq_false_of_ne
  rintro rfl
  simp [Word.isActive, hc] at h

theorem any_filter_active {p : Word → Bool} (hp : ∀ w : Word, w.isActive = false → p w = false)
    (ws : List Word) : (ws.filter Word.isActive).any p = ws.any p := by
  induction ws with
  | nil => rfl
  | cons w ws ih =>
      cases hw : w.isActive with
      | true => rw [List.filter_cons_of_pos hw, List.any_cons, List.any_cons, ih]
      | false =>
          rw [List.filter_cons_of_neg (by simp [hw]), ih, List.any_cons, hp w hw, Bool.false_or]

theorem is_of_not_active {c : Char} (hc : c ∈ commandLetters) (n : List Char) (w : Word)
    (h : w.isActive = false) : w.is c n = false := by
  rw [Word.is, ne_of_not_active h hc, Bool.false_and]

theorem any_is_filter {c : Char} (hc : c ∈ commandLetters) (n : List Char) (ws : List Word) :
    (ws.filter Word.isActive).any (Word.is c n) = ws.any (Word.is c n) :=
  any_filter_active (is_of_not_active hc n) ws

theorem inOrder_filter {ks : List (Char × List Char)} (hk : ∀ k ∈ ks, k.1 ∈ commandLetters)
    (ws : List Word) : inOrder ks (ws.filter Word.isActive) = inOrder ks ws := by
  induction ws generalizing ks with
  | nil => rfl
  | cons w ws ih =>
      cases ks with
      | nil => simp [inOrder]
      | cons k ks =>
          have hks : ∀ j ∈ ks, j.1 ∈ commandLetters := fun j hj => hk j (List.mem_cons_of_mem k hj)
          cases hw : w.isActive with
          | true => rw [List.filter_cons_of_pos hw, inOrder, inOrder, ih hk, ih hks]
          | false =>
              rw [List.filter_cons_of_neg (by simp [hw]), ih hk, inOrder,
                is_of_not_active (hk k List.mem_cons_self) k.2 w hw, Bool.false_and, Bool.false_or]

/-- The other words do not matter for the kind of a command. -/
theorem commandOf_filter (returns : Bool) (ws : List Word) :
    commandOf returns (ws.filter Word.isActive) = commandOf returns ws := by
  have hspeed : (ws.filter Word.isActive).any Word.isSpeed = ws.any Word.isSpeed :=
    any_filter_active (fun w h => by rw [Word.isSpeed, ne_of_not_active h (by decide)]; rfl) ws
  have hspindle : (ws.filter Word.isActive).any Word.isSpindle = ws.any Word.isSpindle :=
    any_filter_active (fun w h => by rw [Word.isSpindle, ne_of_not_active h (by decide)]; rfl) ws
  have hprobes : (ws.filter Word.isActive).any Word.probes = ws.any Word.probes :=
    any_filter_active (fun w h => by rw [Word.probes, ne_of_not_active h (by decide)]; rfl) ws
  have hG (n : List Char) := any_is_filter (by decide : 'G' ∈ commandLetters) n ws
  simp only [commandOf, hspeed, hspindle, hprobes, hG]
  rw [inOrder_filter]
  decide

/-! ### Written words -/

theorem upper_spell {ws : List Word} (h : ∀ w ∈ ws, w.IsWritten) :
    upper (spell ws) = spell (ws.map Word.raised) := by
  induction ws with
  | nil => rfl
  | cons w ws ih =>
      have hw := h w List.mem_cons_self
      have hrec := ih fun v hv => h v (List.mem_cons_of_mem w hv)
      cases ws with
      | nil => simp [upper_chars hw]
      | cons v ws =>
          rw [spell_cons_cons, upper_append, upper_cons_of_eq (by decide), upper_chars hw, hrec]
          simp

theorem not_active_axis (a : Axis) (t : List Char) : Word.isActive ⟨a.letter, t⟩ = false := by
  cases a <;> rfl

theorem filter_rapidWords (mode : PositionMode) (system : CoordinateSystem)
    (es : List (Axis × Float)) :
    ((rapidWords mode system es).map Word.raised).filter Word.isActive =
      commandWord 'G' "0" :: (modeWords mode ++ systemWords system) := by
  have hes : ((es.map fun e => numberWord e.1.letter e.2).map Word.raised).filter Word.isActive =
      [] := by
    rw [List.filter_eq_nil_iff]
    intro w hw
    obtain ⟨v, hv, rfl⟩ := List.mem_map.1 hw
    obtain ⟨e, -, rfl⟩ := List.mem_map.1 hv
    rw [Word.raised, numberWord, not_active_axis]
    exact Bool.false_ne_true
  rw [rapidWords, List.map_cons, List.map_append, List.map_append, List.filter_cons_of_pos rfl,
    List.filter_append, hes, List.append_nil]
  cases mode <;> cases system <;> rfl

def rapidCode (mode : PositionMode) (system : CoordinateSystem) (es : List (Axis × Float)) :
    List Char := upper (spell (rapidWords mode system es))

section Rapid

variable (mode : PositionMode) (system : CoordinateSystem) (es : List (Axis × Float))

theorem spells_rapidCode :
    Spells ((rapidWords mode system es).map Word.raised) (rapidCode mode system es) :=
  spells_upper_spell (isWritten_rapidWords mode system es)

theorem hasG_rapidCode (n : List Char) (hn : n ⊆ numberChars) :
    hasWord ('G' :: n) (rapidCode mode system es) =
      (commandWord 'G' "0" :: (modeWords mode ++ systemWords system)).any (Word.is 'G' n) := by
  rw [hasG_eq (spells_rapidCode mode system es) n hn, ← filter_rapidWords mode system es,
    any_is_filter (by decide)]

/-- A written move never has the form of the return that closes a program: there the system is
named before the mode. -/
theorem not_isReturn_rapidCode {es : List (Axis × Float)} (hes : es ≠ []) :
    isReturn (rapidCode mode system es) = false := by
  obtain ⟨e, es, rfl⟩ := List.exists_cons_of_ne_nil hes
  obtain ⟨a, x⟩ := e
  rw [rapidCode, upper_spell (isWritten_rapidWords mode system _)]
  cases mode <;> cases system <;> cases a <;> cases es <;> rfl

theorem classify_rapidCode {es : List (Axis × Float)} (hes : es ≠ []) :
    classify (rapidCode mode system es) = .rapid := by
  rw [classify_eq (spells_rapidCode mode system es), not_isReturn_rapidCode mode system hes,
    ← commandOf_filter, filter_rapidWords]
  cases mode <;> cases system <;> rfl

theorem modeOf_rapidCode : modeOf (rapidCode mode system es) = mode := by
  rw [modeOf, show "G91".toList = 'G' :: "91".toList from rfl,
    show "G90".toList = 'G' :: "90".toList from rfl, hasG_rapidCode _ _ _ _ (by decide),
    hasG_rapidCode _ _ _ _ (by decide)]
  cases mode <;> cases system <;> rfl

theorem systemOf_rapidCode : systemOf (rapidCode mode system es) = system := by
  rw [systemOf, show "G53".toList = 'G' :: "53".toList from rfl,
    show "G54".toList = 'G' :: "54".toList from rfl, hasG_rapidCode _ _ _ _ (by decide),
    hasG_rapidCode _ _ _ _ (by decide)]
  cases mode <;> cases system <;> rfl

end Rapid

/-! ### Written numbers -/

theorem writeFloat_ne_nil {x : Float} (h : isPlain x = true) : (writeFloat x).toList ≠ [] := by
  obtain ⟨n, hn, -⟩ := decimal?_writeFloat h numberEnds_nil
  intro hnil
  rw [hnil] at hn
  cases hn

theorem isNumbered_of_plain {letter : Char} {t : List Char} (hne : t ≠ []) (h : t ⊆ plainChars) :
    (Word.raised ⟨letter, t⟩).IsNumbered := by
  have hplain : plainChars ⊆ signedChars := by decide
  refine ⟨?_, ?_⟩
  · rwa [Word.raised, upper_plain h]
  · rw [Word.raised, upper_plain h]
    exact List.Subset.trans h hplain

theorem isNumbered_numberWord (letter : Char) {x : Float} (h : isPlain x = true) :
    (numberWord letter x).raised.IsNumbered :=
  isNumbered_of_plain (writeFloat_ne_nil h) (writeFloat_subset_plain h)

/-- A float behind an axis letter is read back. -/
theorem axisValue?_numberWord (a : Axis) {x : Float} (h : isPlain x = true) :
    (numberWord a.letter x).raised.axisValue? = some (a, settled x) := by
  obtain ⟨n, hread, hn⟩ := decimal?_writeFloat h numberEnds_nil
  rw [List.append_nil] at hread
  simp [Word.axisValue?, Word.raised, numberWord, upper_plain (writeFloat_subset_plain h), hread, hn]

/-- A float that is not below zero is read back behind any letter. -/
theorem unsigned?_numberWord (letter : Char) {x : Float} (h : isPlain x = true) (hx : zero ≤ x) :
    (numberWord letter x).raised.unsigned? letter = some (settled x) := by
  obtain ⟨n, hread, hn⟩ := unsigned?_writeFloat h hx numberEnds_nil
  rw [List.append_nil] at hread
  simp [Word.unsigned?, Word.raised, numberWord, upper_plain (writeFloat_subset_plain h), hread, hn]

theorem axisValue?_of_letter {w : Word} (h : Axis.ofLetter? w.letter = none) : w.axisValue? = none := by
  rw [Word.axisValue?, h]
  rfl

theorem isNumbered_modeWords (mode : PositionMode) :
    ∀ w ∈ (modeWords mode).map Word.raised, w.IsNumbered ∧ w.axisValue? = none := by
  have h : ∀ w ∈ (modeWords mode).map Word.raised,
      w.tail ≠ [] ∧ w.tail ⊆ signedChars ∧ w.axisValue? = none := by
    cases mode <;> decide
  exact fun w hw => ⟨⟨(h w hw).1, (h w hw).2.1⟩, (h w hw).2.2⟩

theorem isNumbered_systemWords (system : CoordinateSystem) :
    ∀ w ∈ (systemWords system).map Word.raised, w.IsNumbered ∧ w.axisValue? = none := by
  have h : ∀ w ∈ (systemWords system).map Word.raised,
      w.tail ≠ [] ∧ w.tail ⊆ signedChars ∧ w.axisValue? = none := by
    cases system <;> decide
  exact fun w hw => ⟨⟨(h w hw).1, (h w hw).2.1⟩, (h w hw).2.2⟩

theorem filterMap_eq_nil_of_none {α β : Type} {f : α → Option β} {l : List α}
    (h : ∀ a ∈ l, f a = none) : l.filterMap f = [] := by
  rwa [List.filterMap_eq_nil_iff]

/-- The axis words of a written move are those that were given. -/
theorem axes_rapidCode (mode : PositionMode) (system : CoordinateSystem) {es : List (Axis × Float)}
    (hes : ∀ e ∈ es, isPlain e.2 = true) (hnodup : (es.map (·.1)).Nodup) :
    (axes (rapidCode mode system es)).entries = es.map fun e => (e.1, settled e.2) := by
  have hnum : ∀ w ∈ (rapidWords mode system es).map Word.raised, w.IsNumbered := by
    intro w hw
    rw [rapidWords, List.map_cons, List.mem_cons, List.map_append, List.map_append,
      List.mem_append, List.mem_append] at hw
    rcases hw with rfl | (hw | hw) | hw
    · exact ⟨by decide, by decide⟩
    · exact (isNumbered_modeWords mode w hw).1
    · exact (isNumbered_systemWords system w hw).1
    · rw [List.map_map] at hw
      obtain ⟨e, he, rfl⟩ := List.mem_map.1 hw
      exact isNumbered_numberWord e.1.letter (hes e he)
  have hentries : ((rapidWords mode system es).map Word.raised).filterMap Word.axisValue? =
      es.map fun e => (e.1, settled e.2) := by
    rw [rapidWords, List.map_cons, List.map_append, List.map_append, List.filterMap_cons,
      List.filterMap_append, List.filterMap_append,
      filterMap_eq_nil_of_none fun w hw => (isNumbered_modeWords mode w hw).2,
      filterMap_eq_nil_of_none fun w hw => (isNumbered_systemWords system w hw).2,
      List.map_map, List.filterMap_map]
    have hword : ∀ e ∈ es, (Word.axisValue? ∘ Word.raised ∘ fun e : Axis × Float =>
        numberWord e.1.letter e.2) e = some (e.1, settled e.2) :=
      fun e he => axisValue?_numberWord e.1 (hes e he)
    rw [List.filterMap_congr hword]
    simp [axisValue?_of_letter, Word.raised, commandWord, Axis.ofLetter?]
  rw [axes_eq (spells_rapidCode mode system es) hnum, hentries]
  apply ByAxis.entries_ofList
  simpa [Function.comp_def] using hnodup

theorem isNumbered_commandWord {letter : Char} {number : String}
    (h : upper number.toList ≠ [] ∧ upper number.toList ⊆ signedChars) :
    (commandWord letter number).raised.IsNumbered :=
  ⟨h.1, h.2⟩

/-! ### Pauses -/

def pauseCode (x : Float) : List Char := upper (spell (pauseWords x))

theorem spells_pauseCode (x : Float) : Spells ((pauseWords x).map Word.raised) (pauseCode x) :=
  spells_upper_spell (isWritten_pauseWords x)

theorem classify_pauseCode (x : Float) : classify (pauseCode x) = .dwell := by
  have hreturn : isReturn (pauseCode x) = false := by
    rw [pauseCode, upper_spell (isWritten_pauseWords x)]
    rfl
  rw [classify_eq (spells_pauseCode x), hreturn]
  rfl

theorem pause?_pauseCode {x : Float} (h : isPlain x = true) (hx : zero ≤ x) :
    pause? (pauseCode x) = some (settled x) := by
  have hnum : ∀ w ∈ (pauseWords x).map Word.raised, w.IsNumbered := by
    simp only [pauseWords, List.map_cons, List.map_nil, List.forall_mem_cons]
    exact ⟨isNumbered_commandWord (by decide), isNumbered_numberWord 'P' h, by simp⟩
  rw [pause?_eq (spells_pauseCode x) hnum]
  have hfirst : (commandWord 'G' "4").raised.unsigned? 'P' = none := rfl
  simp only [pauseWords, List.map_cons, List.map_nil, List.findSome?_cons, hfirst,
    unsigned?_numberWord 'P' h hx]

/-! ### Starts -/

def startCode (a : Axis) (x : Float) : List Char := upper (spell (startWords a x))

theorem spells_startCode (a : Axis) (x : Float) :
    Spells ((startWords a x).map Word.raised) (startCode a x) :=
  spells_upper_spell (isWritten_startWords a x)

theorem classify_startCode (a : Axis) (x : Float) : classify (startCode a x) = .rapid := by
  have hreturn : isReturn (startCode a x) = false := by
    rw [startCode, upper_spell (isWritten_startWords a x)]
    rfl
  rw [classify_eq (spells_startCode a x), hreturn]
  cases a <;> rfl

theorem hasWord_startCode (a : Axis) (x : Float) :
    hasWord "G90".toList (startCode a x) = true ∧ hasWord "G53".toList (startCode a x) = true := by
  rw [show "G90".toList = 'G' :: "90".toList from rfl,
    show "G53".toList = 'G' :: "53".toList from rfl, hasG_eq (spells_startCode a x) _ (by decide),
    hasG_eq (spells_startCode a x) _ (by decide)]
  exact ⟨rfl, rfl⟩

theorem axes_startCode (a : Axis) {x : Float} (h : isPlain x = true) :
    (axes (startCode a x)).entries = [(a, settled x)] := by
  have hnum : ∀ w ∈ (startWords a x).map Word.raised, w.IsNumbered := by
    simp only [startWords, List.map_cons, List.map_nil, List.forall_mem_cons]
    exact ⟨isNumbered_commandWord (by decide), isNumbered_commandWord (by decide),
      isNumbered_commandWord (by decide), isNumbered_numberWord a.letter h, by simp⟩
  have hentries : ((startWords a x).map Word.raised).filterMap Word.axisValue? = [(a, settled x)] := by
    have hnone (number : String) : (commandWord 'G' number).raised.axisValue? = none := rfl
    simp only [startWords, List.map_cons, List.map_nil, List.filterMap_cons, hnone,
      axisValue?_numberWord a h, List.filterMap_nil]
  rw [axes_eq (spells_startCode a x) hnum, hentries]
  exact ByAxis.entries_ofList (by simp)

/-! ### The spindle -/

def spindleCode (x : Float) : List Char := upper (spell (spindleWords x))

theorem spells_spindleCode (x : Float) :
    Spells ((spindleWords x).map Word.raised) (spindleCode x) :=
  spells_upper_spell (isWritten_spindleWords x)

theorem isSetup_spindleCode (x : Float) : isSetup (spindleCode x) = true := by
  rw [isSetup_eq (spells_spindleCode x)]
  rfl

theorem not_isReturn_spindleCode (x : Float) : isReturn (spindleCode x) = false := by
  rw [spindleCode, upper_spell (isWritten_spindleWords x)]
  rfl

/-- A speed that does not begin with a digit makes a command of no kind. -/
theorem classify_spindleCode (x : Float) :
    classify (spindleCode x) =
      if (numberWord 'S' x).raised.isSpeed then .spindle else .other := by
  rw [classify_eq (spells_spindleCode x), not_isReturn_spindleCode]
  cases h : (numberWord 'S' x).raised.isSpeed <;>
  · simp only [commandOf, spindleWords, List.map_cons, List.map_nil, List.any_cons, List.any_nil, h]
    rfl

theorem speed?_spindleCode {x : Float} (h : isPlain x = true) (hw : isWhole x = true)
    (hx : zero ≤ x) :
    classify (spindleCode x) = .spindle ∧ speed? (spindleCode x) = some (settled x) := by
  have hends : noDigit " M4".toList = true := rfl
  obtain ⟨ds, hspan, hne, hvalue⟩ := spanDigits_writeFloat h hw hx hends
  have hcode : spindleCode x = 'S' :: ((writeFloat x).toList ++ " M4".toList) := by
    rw [spindleCode, upper_spell (isWritten_spindleWords x)]
    simp [spindleWords, Word.raised, Word.chars, numberWord, commandWord,
      upper_plain (writeFloat_subset_plain h)]
    decide
  have hnum := isNumbered_numberWord 'S' h
  have htail : (numberWord 'S' x).raised.tail = (writeFloat x).toList :=
    upper_plain (writeFloat_subset_plain h)
  have htrim := trimStart_tail hnum " M4".toList
  rw [htail] at htrim
  have hdigit : noDigit (writeFloat x).toList = false := by
    obtain ⟨c, cs, hc⟩ := List.exists_cons_of_ne_nil (writeFloat_ne_nil h)
    rw [hc, List.cons_append, spanDigits] at hspan
    rw [hc, noDigit]
    cases hv : digitValue? c with
    | some d => simp [Text.isDigit, hv]
    | none =>
        rw [hv] at hspan
        exact absurd (Prod.mk.inj hspan).1.symm hne
  constructor
  · rw [classify_spindleCode, Word.isSpeed, htail, hdigit]
    rfl
  · obtain ⟨d, ds, rfl⟩ := List.exists_cons_of_ne_nil hne
    rw [hcode, speed?, firstAnywhere, speedWord?, htrim, hspan]
    simp only [hvalue]
    rfl

/-! ### Probes -/

def probeCode (a : Axis) (negative : Bool) (distance feed : Float) : List Char :=
  upper (spell (probeWords a negative distance feed))

theorem spells_probeCode (a : Axis) (negative : Bool) (distance feed : Float) :
    Spells ((probeWords a negative distance feed).map Word.raised)
      (probeCode a negative distance feed) :=
  spells_upper_spell (isWritten_probeWords a negative distance feed)

theorem classify_probeCode (a : Axis) (negative : Bool) (distance feed : Float) :
    classify (probeCode a negative distance feed) = .probe := by
  have hreturn : isReturn (probeCode a negative distance feed) = false := by
    rw [probeCode, upper_spell (isWritten_probeWords a negative distance feed)]
    rfl
  rw [classify_eq (spells_probeCode a negative distance feed), hreturn]
  cases a <;> rfl

section Probe

variable (a : Axis) (negative : Bool) {distance feed : Float} (hd : isPlain distance = true)
  (hf : isPlain feed = true)

include hd hf

theorem isNumbered_probeWords :
    ∀ w ∈ (probeWords a negative distance feed).map Word.raised, w.IsNumbered := by
  have hsign := signChars_subset negative
  have hne : signChars negative ++ (writeFloat distance).toList ≠ [] := by
    simp [writeFloat_ne_nil hd]
  simp only [probeWords, List.map_cons, List.map_nil, List.forall_mem_cons]
  exact ⟨isNumbered_commandWord (by decide),
    isNumbered_of_plain hne (List.append_subset.2 ⟨hsign, writeFloat_subset_plain hd⟩),
    isNumbered_numberWord 'F' hf, by simp⟩

/-- The one axis word of a probe line: its sign and its magnitude. -/
theorem axes_probeCode (hx : zero ≤ distance) :
    ∃ value, (axes (probeCode a negative distance feed)).entries = [(a, value)] ∧
      value.abs = settled distance ∧
      (value < zero ↔ negative = true ∧ isZero distance = false) := by
  obtain ⟨n, hread, habs, hneg⟩ := decimal?_signed_writeFloat hd hx negative numberEnds_nil
  rw [List.append_nil] at hread
  have hsign := signChars_subset negative
  have hplain := upper_plain (List.append_subset.2 ⟨hsign, writeFloat_subset_plain hd⟩)
  have hentry : (Word.raised ⟨a.letter, signChars negative ++ (writeFloat distance).toList⟩).axisValue? =
      some (a, n.toFloat) := by
    simp [Word.axisValue?, Word.raised, hplain, hread]
  have hentries : ((probeWords a negative distance feed).map Word.raised).filterMap Word.axisValue? =
      [(a, n.toFloat)] := by
    have hnone : (commandWord 'G' "38.2").raised.axisValue? = none := rfl
    have hfeed : (numberWord 'F' feed).raised.axisValue? = none := rfl
    simp only [probeWords, List.map_cons, List.map_nil, List.filterMap_cons, hnone, hentry, hfeed,
      List.filterMap_nil]
  refine ⟨n.toFloat, ?_, habs, hneg⟩
  rw [axes_eq (spells_probeCode a negative distance feed) (isNumbered_probeWords a negative hd hf),
    hentries]
  exact ByAxis.entries_ofList (by simp)

theorem feed?_probeCode (hx : zero ≤ feed) :
    feed? (probeCode a negative distance feed) = some (settled feed) := by
  have hfirst : (commandWord 'G' "38.2").raised.unsigned? 'F' = none := rfl
  have hsecond : (Word.raised ⟨a.letter, signChars negative ++ (writeFloat distance).toList⟩).unsigned?
      'F' = none := by
    cases a <;> rfl
  rw [feed?_eq (spells_probeCode a negative distance feed) (isNumbered_probeWords a negative hd hf)]
  simp only [probeWords, List.map_cons, List.map_nil, List.findSome?_cons, hfirst, hsecond,
    unsigned?_numberWord 'F' hf hx]

end Probe

/-! ### The work origin -/

def originCode (a : Axis) (x : Float) : List Char := upper (spell (originWords a x))

theorem spells_originCode (a : Axis) (x : Float) :
    Spells ((originWords a x).map Word.raised) (originCode a x) :=
  spells_upper_spell (isWritten_originWords a x)

theorem classify_originCode (a : Axis) (x : Float) : classify (originCode a x) = .origin := by
  have hreturn : isReturn (originCode a x) = false := by
    rw [originCode, upper_spell (isWritten_originWords a x)]
    rfl
  rw [classify_eq (spells_originCode a x), hreturn]
  cases a <;> rfl

theorem axes_originCode (a : Axis) {x : Float} (h : isPlain x = true) :
    (axes (originCode a x)).entries = [(a, settled x)] := by
  have hnum : ∀ w ∈ (originWords a x).map Word.raised, w.IsNumbered := by
    simp only [originWords, List.map_cons, List.map_nil, List.forall_mem_cons]
    exact ⟨isNumbered_commandWord (by decide), isNumbered_commandWord (by decide),
      isNumbered_commandWord (by decide), isNumbered_numberWord a.letter h, by simp⟩
  have hentries : ((originWords a x).map Word.raised).filterMap Word.axisValue? = [(a, settled x)] := by
    have hG : (commandWord 'G' "10").raised.axisValue? = none := rfl
    have hL : (commandWord 'L' "20").raised.axisValue? = none := rfl
    have hP : (commandWord 'P' "1").raised.axisValue? = none := rfl
    simp only [originWords, List.map_cons, List.map_nil, List.filterMap_cons, hG, hL, hP,
      axisValue?_numberWord a h, List.filterMap_nil]
  rw [axes_eq (spells_originCode a x) hnum, hentries]
  exact ByAxis.entries_ofList (by simp)

end Program

end TouchProbe
