import TouchProbe.Proofs.Layout
import TouchProbe.Proofs.Numerals

/-!
The readers of commands work on characters and look for their words anywhere in a text.  On a text
that is spelled by words, each a letter and what belongs to it, they say what can be said about the
words one by one: no word is found across two of them, and none inside the number of another.
-/

namespace TouchProbe.Program

open Text Number

/-- A word of a command: a letter and the characters up to the next blank or letter. -/
structure Word where
  letter : Char
  tail : List Char
  deriving DecidableEq

/-- The characters that may follow the letter of a word: those of floats, in upper case. -/
def tailChars : List Char := "0123456789-.+ENAIFTY".toList

def isCapital (c : Char) : Bool := 'A' ≤ c && c ≤ 'Z'

structure Word.IsSound (w : Word) : Prop where
  letter : isCapital w.letter = true
  tail : w.tail ⊆ tailChars

/-- A text is spelled by words when it consists of them, with any number of blanks after each. -/
inductive Spells : List Word → List Char → Prop
  | nil : Spells [] []
  | cons {w : Word} {ws : List Word} {gap s : List Char} (hw : w.IsSound)
      (hgap : ∀ b ∈ gap, isBlank b = true ∧ b ≠ '\n') (hs : Spells ws s) :
      Spells (w :: ws) (w.letter :: (w.tail ++ (gap ++ s)))

/-- The characters of words that follow no letter: those of tails and of gaps. -/
def IsFiller (c : Char) : Prop := c ∈ tailChars ∨ (isBlank c = true ∧ c ≠ '\n')

theorem IsFiller.ne_newline {c : Char} (h : IsFiller c) : c ≠ '\n' := by
  rcases h with h | h
  · rintro rfl
    exact absurd h (by decide)
  · exact h.2

theorem isBlank_of_capital {c : Char} (h : isCapital c = true) : isBlank c = false := by
  simp only [isCapital, Bool.and_eq_true, decide_eq_true_eq, Char.le_def,
    UInt32.le_iff_toNat_le] at h
  have h1 : 65 ≤ c.toNat ∧ c.toNat ≤ 90 := h
  have h2 : c.toNat < 128 := by omega
  simp [isBlank, h2]
  omega

theorem isDigit_of_capital {c : Char} (h : isCapital c = true) : Text.isDigit c = false := by
  simp only [isCapital, Bool.and_eq_true, decide_eq_true_eq, Char.le_def,
    UInt32.le_iff_toNat_le] at h
  have h1 : 65 ≤ c.toNat ∧ c.toNat ≤ 90 := h
  have h2 : c.toNat < 128 := by omega
  simp [Text.isDigit, digitValue?, h2]
  omega

theorem isDigit_of_blank {c : Char} (h : isBlank c = true) : Text.isDigit c = false := by
  simp only [isBlank] at h
  simp only [Text.isDigit, digitValue?]
  generalize c.toNat = n at *
  by_cases hn : n < 128
  · simp only [hn, if_true, Bool.or_eq_true, Bool.and_eq_true, decide_eq_true_eq] at h ⊢
    rw [if_neg (by omega)]
    rfl
  · simp only [hn, if_false, Bool.or_eq_true, Bool.and_eq_true, decide_eq_true_eq, beq_iff_eq] at h ⊢
    rcases h with ((((((((h | h) | h) | ⟨h, h'⟩) | h) | h) | h) | h) | h)
    all_goals first | (subst h; decide) | (interval_cases n <;> decide)

theorem not_dot_of_blank {c : Char} (h : isBlank c = true) : c ≠ '.' := by
  rintro rfl
  exact absurd h (by decide)

theorem not_dot_of_capital {c : Char} (h : isCapital c = true) : c ≠ '.' := by
  rintro rfl
  exact absurd h (by decide)

section Spelled

variable {w : Word} {ws : List Word} {gap s : List Char}

/-- What follows the tail of a word goes on neither with a digit nor with a point. -/
theorem numberEnds_gap (hgap : ∀ b ∈ gap, isBlank b = true ∧ b ≠ '\n') (hs : Spells ws s) :
    numberEnds (gap ++ s) = true := by
  cases gap with
  | cons b gap =>
      have hb := (hgap b List.mem_cons_self).1
      simp [numberEnds, isDigit_of_blank hb, not_dot_of_blank hb]
  | nil =>
      cases hs with
      | nil => rfl
      | cons hw _ _ => simp [numberEnds, isDigit_of_capital hw.letter, not_dot_of_capital hw.letter]

/-- What stands behind the letter of a word is filler up to the next word. -/
theorem filler_of_mem (hw : w.IsSound) (hgap : ∀ b ∈ gap, isBlank b = true ∧ b ≠ '\n') :
    ∀ b ∈ w.tail ++ gap, IsFiller b := by
  intro b hb
  rcases List.mem_append.1 hb with h | h
  · exact .inl (hw.tail h)
  · exact .inr (hgap b h)

theorem anywhere_append_of_false {p : List Char → Bool} {t : List Char}
    (h : ∀ b ∈ t, ∀ r, p (b :: r) = false) (r : List Char) :
    anywhere p (t ++ r) = anywhere p r := by
  induction t with
  | nil => rfl
  | cons b t ih =>
      rw [List.cons_append, anywhere, h b List.mem_cons_self, Bool.false_or,
        ih fun k hk => h k (List.mem_cons_of_mem b hk)]

theorem laterOnLine_append_of_false {p : List Char → Bool} {t : List Char}
    (h : ∀ b ∈ t, b ≠ '\n' ∧ ∀ r, p (b :: r) = false) (r : List Char) :
    laterOnLine p (t ++ r) = laterOnLine p r := by
  induction t with
  | nil => rfl
  | cons b t ih =>
      have hb := h b List.mem_cons_self
      rw [List.cons_append, laterOnLine, hb.2, Bool.false_or,
        ih fun k hk => h k (List.mem_cons_of_mem b hk)]
      simp [hb.1]

/-- A test that fails on filler is looked for at the letters alone. -/
theorem anywhere_cons {p : List Char → Bool} (hp : ∀ b, IsFiller b → ∀ r, p (b :: r) = false)
    (hw : w.IsSound) (hgap : ∀ b ∈ gap, isBlank b = true ∧ b ≠ '\n') :
    anywhere p (w.letter :: (w.tail ++ (gap ++ s))) =
      (p (w.letter :: (w.tail ++ (gap ++ s))) || anywhere p s) := by
  rw [anywhere, ← List.append_assoc,
    anywhere_append_of_false fun b hb => hp b (filler_of_mem hw hgap b hb)]

theorem laterOnLine_cons {p : List Char → Bool} (hp : ∀ b, IsFiller b → ∀ r, p (b :: r) = false)
    (hw : w.IsSound) (hgap : ∀ b ∈ gap, isBlank b = true ∧ b ≠ '\n') :
    laterOnLine p (w.letter :: (w.tail ++ (gap ++ s))) =
      (p (w.letter :: (w.tail ++ (gap ++ s))) || laterOnLine p s) := by
  have hletter : w.letter ≠ '\n' := by
    intro h
    exact absurd hw.letter (by rw [h]; decide)
  rw [laterOnLine, ← List.append_assoc, laterOnLine_append_of_false]
  · rw [bne_iff_ne.2 hletter, Bool.true_and]
  · exact fun b hb =>
      have hf := filler_of_mem hw hgap b hb
      ⟨hf.ne_newline, hp b hf⟩

end Spelled

/-! ### Words that are looked for -/

/-- Whether a word has a letter and a number; what follows the number in its tail does not go on
with it. -/
def Word.is (letter : Char) (number : List Char) (w : Word) : Bool :=
  w.letter == letter && (literal number w.tail).any numberEnds

/-- The letters that commands are told apart by. -/
def commandLetters : List Char := "GLPMS".toList

theorem not_filler {c : Char} (h : c ∈ commandLetters) : ¬ IsFiller c := by
  have h1 : ∀ c ∈ commandLetters, c ∉ tailChars ∧ isBlank c = false :=
    List.all_iff_forall_prop.1 (by decide)
  rintro (hf | hf)
  · exact (h1 c h).1 hf
  · exact absurd hf.1 (by rw [(h1 c h).2]; decide)

def numberChars : List Char := "0123456789.".toList

theorem head?_ne_of_numberEnds {r : List Char} (hr : numberEnds r = true) {a : Char}
    (ha : a ∈ numberChars) : r.head? ≠ some a := by
  have h1 : ∀ a ∈ numberChars, Text.isDigit a = true ∨ a = '.' :=
    List.all_iff_forall_prop.1 (by decide)
  cases r with
  | nil => simp
  | cons b r =>
      rw [List.head?_cons, ne_eq, Option.some.injEq]
      rintro rfl
      simp only [numberEnds, Bool.and_eq_true, Bool.not_eq_true', bne_iff_ne] at hr
      rcases h1 b ha with h | h
      · rw [h] at hr
        exact absurd hr.1 (by decide)
      · exact hr.2 h

theorem literal_append {n t r : List Char} (hn : n ⊆ numberChars) (hr : numberEnds r = true) :
    literal n (t ++ r) = (literal n t).map (· ++ r) := by
  induction n generalizing t with
  | nil => rfl
  | cons a n ih =>
      rw [List.cons_subset] at hn
      cases t with
      | nil =>
          have ha := head?_ne_of_numberEnds hr hn.1
          cases r with
          | nil => rfl
          | cons b r =>
              have hab : a ≠ b := fun h => ha (by rw [h, List.head?_cons])
              simp [literal, List.isPrefixOf?, hab]
      | cons b t =>
          have hrec := ih (t := t) hn.2
          by_cases hab : a = b
          · simpa [literal, List.isPrefixOf?, hab] using hrec
          · simp [literal, List.isPrefixOf?, hab]

theorem literal_cons_cons (c b : Char) (n t : List Char) :
    literal (c :: n) (b :: t) = if b = c then literal n t else none := by
  by_cases h : b = c
  · simp [literal, List.isPrefixOf?, h]
  · simp [literal, List.isPrefixOf?, h, Ne.symm h]

theorem numberEnds_append {t r : List Char} (hr : numberEnds r = true) :
    numberEnds (t ++ r) = numberEnds t := by
  cases t with
  | nil => exact hr
  | cons b t => rfl

theorem noDigit_append {t r : List Char} (hr : numberEnds r = true) :
    noDigit (t ++ r) = noDigit t := by
  cases t with
  | nil => exact noDigit_of_numberEnds hr
  | cons b t => rfl

theorem startsWord_eq {w : Word} {c : Char} {n r : List Char} (hn : n ⊆ numberChars)
    (hr : numberEnds r = true) : startsWord (c :: n) (w.letter :: (w.tail ++ r)) = w.is c n := by
  rw [startsWord, literal_cons_cons, Word.is]
  by_cases h : w.letter = c
  · rw [if_pos h, literal_append hn hr, Option.any_map, h, beq_self_eq_true, Bool.true_and]
    congr 1
    exact funext fun t => numberEnds_append hr
  · rw [if_neg h, beq_false_of_ne h]
    rfl

theorem startsWord_filler {c b : Char} {n : List Char} (hc : c ∈ commandLetters)
    (hb : IsFiller b) (r : List Char) : startsWord (c :: n) (b :: r) = false := by
  rw [startsWord, literal_cons_cons, if_neg (fun h : b = c => not_filler hc (h ▸ hb))]
  rfl

theorem hasWord_eq {ws : List Word} {s : List Char} (h : Spells ws s) {c : Char} {n : List Char}
    (hc : c ∈ commandLetters) (hn : n ⊆ numberChars) :
    hasWord (c :: n) s = ws.any (Word.is c n) := by
  rw [hasWord]
  induction h with
  | nil => rfl
  | cons hw hgap hs ih =>
      rw [anywhere_cons (fun b => startsWord_filler hc) hw hgap,
        startsWord_eq hn (numberEnds_gap hgap hs), ih, List.any_cons]

/-! ### Probing, the work origin and the spindle -/

def Word.probes (w : Word) : Bool := w.letter == 'G' && (literal "38.2".toList w.tail).any noDigit

theorem isProbing_eq {ws : List Word} {s : List Char} (h : Spells ws s) :
    isProbing s = ws.any Word.probes := by
  rw [isProbing]
  induction h with
  | nil => rfl
  | @cons w ws gap s hw hgap hs ih =>
      have hends := numberEnds_gap hgap hs
      have hn : "38.2".toList ⊆ numberChars := by decide
      rw [anywhere_cons _ hw hgap, ih, List.any_cons]
      · congr 1
        change (literal ('G' :: "38.2".toList) _).any noDigit = _
        rw [literal_cons_cons, Word.probes]
        by_cases hg : w.letter = 'G'
        · rw [if_pos hg, literal_append hn hends, Option.any_map, hg, beq_self_eq_true,
            Bool.true_and]
          congr 1
          exact funext fun t => noDigit_append hends
        · rw [if_neg hg, beq_false_of_ne hg]
          rfl
      · intro b hb r
        change (literal ('G' :: "38.2".toList) _).any noDigit = _
        rw [literal_cons_cons, if_neg (fun h : b = 'G' => not_filler (by decide) (h ▸ hb))]
        rfl

/-- Whether words with given letters and numbers occur in a given order. -/
def inOrder : List (Char × List Char) → List Word → Bool
  | [], _ => true
  | _ :: _, [] => false
  | k :: ks, w :: ws => (w.is k.1 k.2 && inOrder ks ws) || inOrder (k :: ks) ws

/-- A word that is followed by something later on the line. -/
def wordThen (c : Char) (n : List Char) (f : List Char → Bool) (t : List Char) : Bool :=
  (literal (c :: n) t).any fun r => numberEnds r && f r

theorem wordThen_eq {w : Word} {c : Char} {n r : List Char} {f : List Char → Bool} {v : Bool}
    (hw : w.IsSound) (hn : n ⊆ numberChars) (hr : numberEnds r = true)
    (hf : ∀ t, t ⊆ tailChars → f (t ++ r) = v) :
    wordThen c n f (w.letter :: (w.tail ++ r)) = (w.is c n && v) := by
  rw [wordThen, literal_cons_cons, Word.is]
  by_cases h : w.letter = c
  · rw [if_pos h, literal_append hn hr, Option.any_map, h, beq_self_eq_true, Bool.true_and]
    cases hl : literal n w.tail with
    | none => rfl
    | some t =>
        have ht : n ++ t ⊆ tailChars := by
          rw [literal_eq_some_iff.1 hl]
          exact hw.tail
        have ht := (List.append_subset.1 ht).2
        simp [numberEnds_append hr, hf t ht]
  · rw [if_neg h, beq_false_of_ne h]
    rfl

theorem wordThen_filler {c b : Char} {n : List Char} {f : List Char → Bool}
    (hc : c ∈ commandLetters) (hb : IsFiller b) (r : List Char) :
    wordThen c n f (b :: r) = false := by
  rw [wordThen, literal_cons_cons, if_neg (fun h : b = c => not_filler hc (h ▸ hb))]
  rfl

theorem laterOnLine_filler {p : List Char → Bool} {t gap s : List Char}
    (hp : ∀ b, IsFiller b → ∀ r, p (b :: r) = false) (ht : t ⊆ tailChars)
    (hgap : ∀ b ∈ gap, isBlank b = true ∧ b ≠ '\n') :
    laterOnLine p (t ++ (gap ++ s)) = laterOnLine p s := by
  rw [← List.append_assoc]
  apply laterOnLine_append_of_false
  intro b hb
  have hf : IsFiller b := (List.mem_append.1 hb).elim (fun h => .inl (ht h)) fun h => .inr (hgap b h)
  exact ⟨hf.ne_newline, hp b hf⟩

theorem laterOnLine_startsWord_eq {ws : List Word} {s : List Char} (h : Spells ws s) {c : Char}
    {n : List Char} (hc : c ∈ commandLetters) (hn : n ⊆ numberChars) :
    laterOnLine (startsWord (c :: n)) s = inOrder [(c, n)] ws := by
  induction h with
  | nil => rfl
  | cons hw hgap hs ih =>
      rw [laterOnLine_cons (fun b => startsWord_filler hc) hw hgap,
        startsWord_eq hn (numberEnds_gap hgap hs), ih]
      simp [inOrder]

theorem laterOnLine_wordThen_eq {ws : List Word} {s : List Char} (h : Spells ws s) {c : Char}
    {n : List Char} {p : List Char → Bool} {ks : List (Char × List Char)}
    (hc : c ∈ commandLetters) (hn : n ⊆ numberChars)
    (hp : ∀ b, IsFiller b → ∀ r, p (b :: r) = false)
    (hks : ∀ ws s, Spells ws s → laterOnLine p s = inOrder ks ws) :
    laterOnLine (wordThen c n (laterOnLine p)) s = inOrder ((c, n) :: ks) ws := by
  induction h with
  | nil => rfl
  | cons hw hgap hs ih =>
      rw [laterOnLine_cons (fun b => wordThen_filler hc) hw hgap,
        wordThen_eq hw hn (numberEnds_gap hgap hs) fun t ht => laterOnLine_filler hp ht hgap,
        hks _ _ hs, ih, inOrder]

theorem setsOrigin_eq {ws : List Word} {s : List Char} (h : Spells ws s) :
    setsOrigin s = inOrder [('G', "10".toList), ('L', "20".toList), ('P', "1".toList)] ws := by
  have hl : ∀ b, IsFiller b → ∀ r, wordThen 'L' "20".toList
      (laterOnLine (startsWord "P1".toList)) (b :: r) = false :=
    fun b => wordThen_filler (by decide)
  have hks : ∀ ws s, Spells ws s →
      laterOnLine (wordThen 'L' "20".toList (laterOnLine (startsWord "P1".toList))) s =
        inOrder [('L', "20".toList), ('P', "1".toList)] ws :=
    fun ws s h => laterOnLine_wordThen_eq h (by decide) (by decide)
      (fun b => startsWord_filler (by decide))
      fun ws s h => laterOnLine_startsWord_eq h (by decide) (by decide)
  change anywhere (wordThen 'G' "10".toList (laterOnLine (wordThen 'L' "20".toList
    (laterOnLine (startsWord "P1".toList))))) s = _
  induction h with
  | nil => rfl
  | cons hw hgap hs ih =>
      rw [anywhere_cons (fun b => wordThen_filler (by decide)) hw hgap,
        wordThen_eq hw (by decide) (numberEnds_gap hgap hs)
          fun t ht => laterOnLine_filler hl ht hgap, hks _ _ hs, ih, inOrder]

/-- Whether the tail of an `M` word is the number of a spindle start. -/
def isSpindleTail : List Char → Bool
  | '0' :: '3' :: s | '0' :: '4' :: s => noDigit s
  | '3' :: s | '4' :: s => noDigit s
  | _ => false

def Word.isSpindle (w : Word) : Bool := w.letter == 'M' && isSpindleTail w.tail

def Word.isSpeed (w : Word) : Bool := w.letter == 'S' && !noDigit w.tail

theorem startsSpindleWord_cons {b : Char} (h : b ≠ 'M') (r : List Char) :
    startsSpindleWord (b :: r) = false := by
  rw [startsSpindleWord.eq_def]
  split <;> simp_all

theorem startsSpeed_eq (b : Char) (r : List Char) :
    startsSpeed (b :: r) = (b == 'S' && !noDigit r) := by
  by_cases h : b = 'S'
  · subst h
    cases r <;> simp [startsSpeed, noDigit]
  · rw [beq_false_of_ne h, startsSpeed.eq_def]
    split <;> simp_all

theorem startsSpindleWord_m (s : List Char) : startsSpindleWord ('M' :: s) = isSpindleTail s := by
  rw [startsSpindleWord.eq_def, isSpindleTail.eq_def]
  split <;> simp_all

/-- Whether a text begins with the last digit of the number of a spindle start. -/
def isSpindleDigit : List Char → Bool
  | c :: s => (c == '3' || c == '4') && noDigit s
  | [] => false

/-- The number of a spindle start may have a zero in front. -/
theorem isSpindleTail_cons (c : Char) (s : List Char) :
    isSpindleTail (c :: s) = (c == '0' && isSpindleDigit s || isSpindleDigit (c :: s)) := by
  by_cases hzero : c = '0'
  · subst hzero
    cases s with
    | nil => rfl
    | cons d s =>
        rw [isSpindleTail.eq_def]
        split <;> simp_all [isSpindleDigit]
  · rw [beq_false_of_ne hzero, Bool.false_and, Bool.false_or, isSpindleTail.eq_def]
    split <;> simp_all [isSpindleDigit]

theorem isSpindleDigit_of_numberEnds {r : List Char} (hr : numberEnds r = true) :
    isSpindleDigit r = false := by
  cases r with
  | nil => rfl
  | cons c r =>
      have hdigit : isDigit c = false := by simp_all [numberEnds]
      have h3 : c ≠ '3' := by rintro rfl; exact absurd hdigit (by decide)
      have h4 : c ≠ '4' := by rintro rfl; exact absurd hdigit (by decide)
      rw [isSpindleDigit, beq_false_of_ne h3, beq_false_of_ne h4]
      rfl

theorem isSpindleDigit_append {r : List Char} (hr : numberEnds r = true) (t : List Char) :
    isSpindleDigit (t ++ r) = isSpindleDigit t := by
  cases t with
  | nil => exact isSpindleDigit_of_numberEnds hr
  | cons c t => rw [List.cons_append, isSpindleDigit, noDigit_append hr, isSpindleDigit]

theorem isSpindleTail_append {r : List Char} (hr : numberEnds r = true) (t : List Char) :
    isSpindleTail (t ++ r) = isSpindleTail t := by
  cases t with
  | nil =>
      cases hq : r with
      | nil => rfl
      | cons c q =>
          have hzero : c ≠ '0' := by
            rintro rfl
            rw [hq] at hr
            exact absurd hr (by rw [numberEnds]; decide)
          have hdigit : isSpindleDigit (c :: q) = false := hq ▸ isSpindleDigit_of_numberEnds hr
          rw [List.nil_append, isSpindleTail_cons, beq_false_of_ne hzero, hdigit]
          rfl
  | cons c t =>
      rw [List.cons_append, isSpindleTail_cons, isSpindleDigit_append hr, ← List.cons_append,
        isSpindleDigit_append hr, isSpindleTail_cons]

theorem startsSpindleWord_eq {w : Word} {r : List Char} (hr : numberEnds r = true) :
    startsSpindleWord (w.letter :: (w.tail ++ r)) = w.isSpindle := by
  rw [Word.isSpindle]
  by_cases h : w.letter = 'M'
  · rw [h, startsSpindleWord_m, isSpindleTail_append hr, beq_self_eq_true, Bool.true_and]
  · rw [startsSpindleWord_cons h, beq_false_of_ne h, Bool.false_and]

theorem startsSpeed_cons_eq {w : Word} {r : List Char} (hr : numberEnds r = true) :
    startsSpeed (w.letter :: (w.tail ++ r)) = w.isSpeed := by
  rw [startsSpeed_eq, noDigit_append hr, Word.isSpeed]

theorem startsSpindleWord_filler {b : Char} (hb : IsFiller b) (r : List Char) :
    startsSpindleWord (b :: r) = false :=
  startsSpindleWord_cons (fun h => not_filler (by decide) (h ▸ hb)) r

theorem startsSpeed_filler {b : Char} (hb : IsFiller b) (r : List Char) :
    startsSpeed (b :: r) = false := by
  rw [startsSpeed_eq, beq_false_of_ne (fun h : b = 'S' => not_filler (by decide) (h ▸ hb))]
  rfl

theorem anywhere_startsSpindleWord_eq {ws : List Word} {s : List Char} (h : Spells ws s) :
    anywhere startsSpindleWord s = ws.any Word.isSpindle := by
  induction h with
  | nil => rfl
  | cons hw hgap hs ih =>
      rw [anywhere_cons (fun b => startsSpindleWord_filler) hw hgap,
        startsSpindleWord_eq (numberEnds_gap hgap hs), ih, List.any_cons]

theorem laterOnLine_startsSpindleWord_eq {ws : List Word} {s : List Char} (h : Spells ws s) :
    laterOnLine startsSpindleWord s = ws.any Word.isSpindle := by
  induction h with
  | nil => rfl
  | cons hw hgap hs ih =>
      rw [laterOnLine_cons (fun b => startsSpindleWord_filler) hw hgap,
        startsSpindleWord_eq (numberEnds_gap hgap hs), ih, List.any_cons]

theorem laterOnLine_startsSpeed_eq {ws : List Word} {s : List Char} (h : Spells ws s) :
    laterOnLine startsSpeed s = ws.any Word.isSpeed := by
  induction h with
  | nil => rfl
  | cons hw hgap hs ih =>
      rw [laterOnLine_cons (fun b => startsSpeed_filler) hw hgap,
        startsSpeed_cons_eq (numberEnds_gap hgap hs), ih, List.any_cons]

theorem drop_of_isSpeed {w : Word} (h : w.isSpeed = true) (r : List Char) :
    ∃ t, t ⊆ w.tail ∧ (w.letter :: (w.tail ++ r)).drop 2 = t ++ r := by
  obtain ⟨l, t⟩ := w
  cases t with
  | nil => simp [Word.isSpeed, noDigit] at h
  | cons d t => exact ⟨t, List.subset_cons_self d t, rfl⟩

theorem afterSpindleWord_eq {w : Word} (h : w.isSpindle = true) (r : List Char) :
    ∃ t, t ⊆ w.tail ∧ afterSpindleWord (w.letter :: (w.tail ++ r)) = t ++ r := by
  obtain ⟨l, t⟩ := w
  rw [Word.isSpindle, Bool.and_eq_true, beq_iff_eq] at h
  obtain ⟨rfl, h⟩ := h
  simp only at h ⊢
  rw [isSpindleTail.eq_def] at h
  split at h
  · exact ⟨_, by simp, rfl⟩
  · exact ⟨_, by simp, rfl⟩
  · rename_i t
    exact ⟨t, by simp, rfl⟩
  · rename_i t
    exact ⟨t, by simp, rfl⟩
  · cases h

/-- A text starts the spindle when it has a speed and a spindle word. -/
theorem startsSpindle_eq {ws : List Word} {s : List Char} (h : Spells ws s) :
    startsSpindle s = (ws.any Word.isSpeed && ws.any Word.isSpindle) := by
  rw [startsSpindle]
  induction h with
  | nil => rfl
  | @cons w ws gap s hw hgap hs ih =>
      have hends := numberEnds_gap hgap hs
      have hskip {p : List Char → Bool} {t : List Char} (ht : t ⊆ w.tail)
          (hp : ∀ b, IsFiller b → ∀ r, p (b :: r) = false) :
          laterOnLine p (t ++ (gap ++ s)) = laterOnLine p s :=
        laterOnLine_filler hp (List.Subset.trans ht hw.tail) hgap
      rw [anywhere_cons _ hw hgap, ih, startsSpeed_cons_eq hends, startsSpindleWord_eq hends,
        List.any_cons, List.any_cons]
      · by_cases hspeed : w.isSpeed = true
        · obtain ⟨t, ht, hdrop⟩ := drop_of_isSpeed hspeed (gap ++ s)
          have hno : w.isSpindle = false := by
            simp only [Word.isSpeed, Bool.and_eq_true, beq_iff_eq] at hspeed
            simp [Word.isSpindle, hspeed.1]
          rw [hspeed, hno, hdrop, hskip ht fun b => startsSpindleWord_filler,
            laterOnLine_startsSpindleWord_eq hs]
          cases ws.any Word.isSpeed <;> cases ws.any Word.isSpindle <;> rfl
        · rw [Bool.not_eq_true] at hspeed
          by_cases hspindle : w.isSpindle = true
          · obtain ⟨t, ht, hafter⟩ := afterSpindleWord_eq hspindle (gap ++ s)
            rw [hspeed, hspindle, hafter, hskip ht fun b => startsSpeed_filler,
              laterOnLine_startsSpeed_eq hs]
            cases ws.any Word.isSpeed <;> cases ws.any Word.isSpindle <;> rfl
          · rw [Bool.not_eq_true] at hspindle
            rw [hspeed, hspindle]
            rfl
      · intro b hb r
        rw [startsSpeed_filler hb, startsSpindleWord_filler hb]
        rfl

/-! ### Kinds of command -/

def commandOf (returns : Bool) (ws : List Word) : Command :=
  if ws.any (Word.is 'G' "20".toList) || ws.any (Word.is 'G' "21".toList) then .units
  else if ws.any Word.isSpeed && ws.any Word.isSpindle then .spindle
  else if ws.any Word.probes then .probe
  else if inOrder [('G', "10".toList), ('L', "20".toList), ('P', "1".toList)] ws then .origin
  else if returns then .goHome
  else if ws.any (Word.is 'G' "0".toList) || ws.any (Word.is 'G' "00".toList) then .rapid
  else if ws.any (Word.is 'G' "4".toList) || ws.any (Word.is 'G' "04".toList) then .dwell
  else .other

section Kinds

variable {ws : List Word} {s : List Char} (h : Spells ws s)

include h

theorem hasG_eq (n : List Char) (hn : n ⊆ numberChars) :
    hasWord ('G' :: n) s = ws.any (Word.is 'G' n) :=
  hasWord_eq h (by decide) hn

theorem classify_eq : classify s = commandOf (isReturn s) ws := by
  have hG (n : List Char) (hn : n ⊆ numberChars) := hasG_eq h n hn
  rw [classify, commandOf, startsSpindle_eq h, isProbing_eq h, setsOrigin_eq h]
  rw [show "G20".toList = 'G' :: "20".toList from rfl,
    show "G21".toList = 'G' :: "21".toList from rfl,
    show "G0".toList = 'G' :: "0".toList from rfl,
    show "G00".toList = 'G' :: "00".toList from rfl,
    show "G4".toList = 'G' :: "4".toList from rfl,
    show "G04".toList = 'G' :: "04".toList from rfl,
    hG _ (by decide), hG _ (by decide), hG _ (by decide), hG _ (by decide), hG _ (by decide),
    hG _ (by decide)]

theorem isSetup_eq :
    isSetup s = (ws.any (Word.is 'G' "53".toList) || ws.any Word.isSpindle) := by
  rw [isSetup, show "G53".toList = 'G' :: "53".toList from rfl, hasG_eq h _ (by decide),
    anywhere_startsSpindleWord_eq h]

end Kinds

end TouchProbe.Program
