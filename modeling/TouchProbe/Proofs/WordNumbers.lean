import TouchProbe.Proofs.Words

/-!
The numbers of words.  A word whose tail has no letter in it is read in the same way whatever follows
it, and nothing between two letters could be one, so the axis words of a text and the number after a
letter are those of its words.
-/

namespace TouchProbe.Program

open Text Number

def signedChars : List Char := "0123456789-+.".toList

/-- Whether a word has a number, which has no letter in it. -/
structure Word.IsNumbered (w : Word) : Prop where
  nonempty : w.tail ≠ []
  chars : w.tail ⊆ signedChars

theorem spanDigits_append_rest (t : List Char) {r : List Char} (hr : noDigit r = true) :
    spanDigits (t ++ r) = ((spanDigits t).1, (spanDigits t).2 ++ r) := by
  induction t with
  | nil =>
      cases r with
      | nil => rfl
      | cons b r =>
          have hb : digitValue? b = none := by simpa [noDigit, Text.isDigit] using hr
          simp [spanDigits, hb]
  | cons c t ih =>
      cases hc : digitValue? c with
      | none => simp [spanDigits, hc]
      | some d => simp [spanDigits, hc, ih]

theorem unsigned?_append (t : List Char) {r : List Char} (hr : numberEnds r = true) :
    unsigned? (t ++ r) = (unsigned? t).map fun p => (p.1, p.2 ++ r) := by
  have hd := noDigit_of_numberEnds hr
  have hdot : ∀ b q, r = b :: q → b ≠ '.' := by
    rintro b q rfl rfl
    exact absurd hr (by simp [numberEnds])
  rw [unsigned?, spanDigits_append_rest t hd, unsigned?]
  obtain ⟨ds, q⟩ := spanDigits t
  cases q with
  | nil =>
      cases hq : r with
      | nil => cases ds <;> rfl
      | cons b q =>
          have hb := hdot b q hq
          cases ds <;> simp [hb]
  | cons b q =>
      by_cases hb : b = '.'
      · subst hb
        have hspan := spanDigits_append_rest q hd
        cases ds with
        | nil =>
            simp only [List.cons_append, hspan]
            obtain ⟨fs, q⟩ := spanDigits q
            cases fs <;> rfl
        | cons d ds => simp [hspan]
      · cases ds <;> simp [hb]

theorem decimal?_append {t r : List Char} (ht : t ≠ []) (hr : numberEnds r = true) :
    decimal? (t ++ r) = (decimal? t).map fun p => (p.1, p.2 ++ r) := by
  obtain ⟨b, t, rfl⟩ := List.exists_cons_of_ne_nil ht
  have hsign : takeSign (b :: t ++ r) = ((takeSign (b :: t)).1, (takeSign (b :: t)).2 ++ r) := by
    by_cases hm : b = '-'
    · subst hm
      rfl
    · by_cases hp : b = '+'
      · subst hp
        rfl
      · simp [takeSign, hm, hp]
  simp only [decimal?, hsign, unsigned?_append _ hr, Option.map_map]
  rfl

def Word.axisValue? (w : Word) : Option (Axis × Float) := do
  let a ← Axis.ofLetter? w.letter
  let n ← decimal? w.tail
  some (a, n.1.toFloat)

def Word.unsigned? (letter : Char) (w : Word) : Option Float :=
  if w.letter = letter then (Number.unsigned? w.tail).map (·.1.toFloat) else none

section Numbers

variable {w : Word} {ws : List Word} {gap s : List Char}

theorem trimStart_tail (hw : w.IsNumbered) (r : List Char) :
    trimStart (w.tail ++ r) = w.tail ++ r := by
  obtain ⟨b, t, ht⟩ := List.exists_cons_of_ne_nil hw.nonempty
  have hblank : ∀ c ∈ signedChars, isBlank c = false :=
    List.all_iff_forall_prop.1 (by decide)
  have hb : isBlank b = false := hblank b (hw.chars (by rw [ht]; exact List.mem_cons_self))
  rw [ht, List.cons_append, trimStart_cons_of_not_blank hb]

theorem axisWord?_eq (hw : w.IsNumbered) {r : List Char} (hr : numberEnds r = true) :
    axisWord? (w.letter :: (w.tail ++ r)) = w.axisValue? := by
  rw [axisWord?, Word.axisValue?, trimStart_tail hw, decimal?_append hw.nonempty hr]
  cases Axis.ofLetter? w.letter with
  | none => rfl
  | some a => cases decimal? w.tail <;> rfl

theorem letterValue?_eq (hw : w.IsNumbered) {r : List Char} (hr : numberEnds r = true)
    (letter : Char) : letterValue? letter (w.letter :: (w.tail ++ r)) = w.unsigned? letter := by
  rw [letterValue?, Word.unsigned?, trimStart_tail hw, unsigned?_append _ hr, Option.map_map]
  rfl

theorem ofLetter?_eq_none {c : Char} (hx : c ≠ 'X') (hy : c ≠ 'Y') (hz : c ≠ 'Z') :
    Axis.ofLetter? c = none := by
  rw [Axis.ofLetter?.eq_def]
  split <;> simp_all

/-- What stands between the letters of words with numbers is nothing that a letter could be. -/
theorem not_capital_of_mem (hw : w.IsNumbered)
    (hgap : ∀ b ∈ gap, isBlank b = true ∧ b ≠ '\n') {b : Char} (hb : b ∈ w.tail ++ gap) :
    isCapital b = false := by
  have hsigned : ∀ c ∈ signedChars, isCapital c = false :=
    List.all_iff_forall_prop.1 (by decide)
  rcases List.mem_append.1 hb with h | h
  · exact hsigned b (hw.chars h)
  · by_contra hc
    rw [Bool.not_eq_false] at hc
    exact absurd (hgap b h).1 (by rw [isBlank_of_capital hc]; decide)

theorem allAlong_append_of_none {α : Type} {f : List Char → Option α} {t : List Char}
    (h : ∀ b ∈ t, ∀ r, f (b :: r) = none) (r : List Char) :
    allAlong f (t ++ r) = allAlong f r := by
  induction t with
  | nil => rfl
  | cons b t ih =>
      rw [List.cons_append, allAlong, h b List.mem_cons_self, Option.toList_none, List.nil_append,
        ih fun k hk => h k (List.mem_cons_of_mem b hk)]

theorem allAlong_axisWord?_eq (h : Spells ws s) (hn : ∀ w ∈ ws, w.IsNumbered) :
    allAlong axisWord? s = ws.filterMap Word.axisValue? := by
  induction h with
  | nil => rfl
  | @cons w ws gap s hw hgap hs ih =>
      have hnum := hn w List.mem_cons_self
      rw [allAlong, axisWord?_eq hnum (numberEnds_gap hgap hs), ← List.append_assoc,
        allAlong_append_of_none, ih fun v hv => hn v (List.mem_cons_of_mem w hv)]
      · cases hv : w.axisValue? <;> simp [hv]
      · intro b hb r
        have hc := not_capital_of_mem hnum hgap hb
        have hnone : Axis.ofLetter? b = none := by
          apply ofLetter?_eq_none <;>
          · rintro rfl
            exact absurd hc (by decide)
        rw [axisWord?, hnone]
        rfl

/-- The axis words of a text that is spelled by words with numbers. -/
theorem axes_eq (h : Spells ws s) (hn : ∀ w ∈ ws, w.IsNumbered) :
    axes s = ByAxis.ofList (ws.filterMap Word.axisValue?) := by
  rw [axes, allAlong_axisWord?_eq h hn]

theorem firstAnywhere_letterValue?_eq (h : Spells ws s) (hn : ∀ w ∈ ws, w.IsNumbered)
    {letter : Char} (hl : isCapital letter = true) :
    firstAnywhere (letterValue? letter) s = ws.findSome? (Word.unsigned? letter) := by
  induction h with
  | nil => rfl
  | @cons w ws gap s hw hgap hs ih =>
      have hnum := hn w List.mem_cons_self
      rw [firstAnywhere, letterValue?_eq hnum (numberEnds_gap hgap hs), ← List.append_assoc,
        firstAnywhere_append_of_none, ih fun v hv => hn v (List.mem_cons_of_mem w hv)]
      · cases hv : w.unsigned? letter <;> simp [hv]
      · intro b hb r
        have hne : b ≠ letter := by
          rintro rfl
          rw [not_capital_of_mem hnum hgap hb] at hl
          exact Bool.false_ne_true hl
        rw [letterValue?, if_neg hne]

theorem feed?_eq (h : Spells ws s) (hn : ∀ w ∈ ws, w.IsNumbered) :
    feed? s = ws.findSome? (Word.unsigned? 'F') :=
  firstAnywhere_letterValue?_eq h hn (by decide)

theorem pause?_eq (h : Spells ws s) (hn : ∀ w ∈ ws, w.IsNumbered) :
    pause? s = ws.findSome? (Word.unsigned? 'P') :=
  firstAnywhere_letterValue?_eq h hn (by decide)

end Numbers

end TouchProbe.Program
