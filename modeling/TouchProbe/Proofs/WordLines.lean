import TouchProbe.Proofs.WordNumbers

/-!
Commands are read by whole words.  On a line of words, each a capital letter and a decimal number,
the readers look at nothing but which words there are and in which order: no word is found inside
another one, whatever number follows or precedes it, and blanks between words make no difference.
-/

namespace TouchProbe

/-! ### Values by axis from a list -/

namespace ByAxis

variable {α : Type}

theorem ofList_append_singleton (es : List (Axis × α)) (e : Axis × α) :
    ofList (es ++ [e]) = (ofList es).set e.1 e.2 := by
  rw [ofList, List.foldl_append]
  rfl

/-- Axes keep the places in which they are first named. -/
theorem map_fst_ofList (es : List (Axis × α)) :
    (ofList es).entries.map (·.1) = (es.map (·.1)).eraseDups := by
  induction es using List.reverseRecOn with
  | nil => rfl
  | append_singleton es e ih =>
      have hset : (ofList (es ++ [e])).entries.map (·.1) =
          if e.1 ∈ (es.map (·.1)).eraseDups then (es.map (·.1)).eraseDups
          else (es.map (·.1)).eraseDups ++ [e.1] := by
        rw [ofList_append_singleton, ← ih]
        exact map_fst_setEntry e.1 e.2 _
      simp only [List.mem_eraseDups] at hset
      rw [hset, List.map_append, List.map_singleton, List.eraseDups_append, List.removeAll]
      by_cases h : e.1 ∈ es.map (·.1) <;> simp [h, List.eraseDups_cons]

/-- An axis has the value that it is given last. -/
theorem get?_ofList (es : List (Axis × α)) (a : Axis) : (ofList es).get? a = es.reverse.lookup a := by
  induction es using List.reverseRecOn with
  | nil => rfl
  | append_singleton es e ih =>
      rw [ofList_append_singleton, get?_set, ih, List.reverse_append, List.reverse_singleton,
        List.singleton_append, List.lookup_cons]
      by_cases h : a = e.1
      · simp [h]
      · simp [h, beq_false_of_ne h]

end ByAxis

namespace Program

open Text Number

/-! ### Plain words -/

inductive Sign where
  | none
  | plus
  | minus
  deriving DecidableEq, Repr

def Sign.chars : Sign → List Char
  | none => []
  | plus => ['+']
  | minus => ['-']

def digitText (ds : List (Fin 10)) : List Char := ds.map fun d => d.val.digitChar

/-- A decimal number: digits, perhaps with a sign before them and with a point and a fraction after
them. -/
structure PlainNumber where
  sign : Sign
  whole : List (Fin 10)
  fraction : Option (List (Fin 10))
  whole_ne_nil : whole ≠ []
  deriving DecidableEq

namespace PlainNumber

variable (n : PlainNumber)

def pointText : List Char :=
  match n.fraction with
  | none => []
  | some ds => '.' :: digitText ds

/-- The characters of a number after its sign. -/
def body : List Char := digitText n.whole ++ n.pointText

def text : List Char := n.sign.chars ++ n.body

/-- The values of the digits after the point. -/
def places : List (Fin 10) := n.fraction.getD []

def value : Float :=
  nearestDecimal (n.sign = .minus) (ofDigits ((n.whole ++ n.places).map Fin.val)) (-n.places.length)

def IsUnsigned : Prop := n.sign = .none

/-- Whether a number has digits alone. -/
def IsBare : Prop := n.sign = .none ∧ n.fraction = none

instance : Decidable n.IsUnsigned := inferInstanceAs (Decidable (_ = _))

instance : Decidable n.IsBare := inferInstanceAs (Decidable (_ ∧ _))

end PlainNumber

/-- A capital letter with a number; the numbers of `M` words are natural numbers. -/
structure PlainWord where
  letter : Char
  number : PlainNumber
  isCapital_letter : isCapital letter = true
  isBare_of_M : letter = 'M' → number.IsBare

def PlainWord.text (w : PlainWord) : List Char := w.letter :: w.number.text

/-- A line of words: one word or more, with any number of blanks, none of them a line end, between
each and the next. -/
inductive IsWordLine : List PlainWord → List Char → Prop
  | last (w : PlainWord) : IsWordLine [w] w.text
  | cons (w : PlainWord) {ws : List PlainWord} {gap s : List Char}
      (hgap : ∀ b ∈ gap, isBlank b = true ∧ b ≠ '\n') (hs : IsWordLine ws s) :
      IsWordLine (w :: ws) (w.text ++ (gap ++ s))

/-- Whether characters are blanks, at least one of them. -/
def IsGap (gap : List Char) : Prop := gap ≠ [] ∧ ∀ b ∈ gap, isBlank b = true

/-- The return to the origin that closes a program: four parts with blanks between them, of which
the last is two words. -/
def IsFooter (s : List Char) : Prop :=
  ∃ a b c, IsGap a ∧ IsGap b ∧ IsGap c ∧
    s = "G0".toList ++ (a ++ ("G54".toList ++ (b ++ ("G90".toList ++ (c ++ "X0Y0".toList)))))

/-! ### What the words of a line say -/

section Meaning

variable (ws : List PlainWord)

def Names (word : String) : Prop := word.toList ∈ ws.map PlainWord.text

instance (word : String) : Decidable (Names ws word) := inferInstanceAs (Decidable (_ ∈ _))

/-- Whether words start the spindle, in any order. -/
def StartsSpindle : Prop :=
  (∃ w ∈ ws, w.letter = 'S' ∧ w.number.IsUnsigned) ∧
    (Names ws "M3" ∨ Names ws "M4" ∨ Names ws "M03" ∨ Names ws "M04")

instance : Decidable (StartsSpindle ws) := inferInstanceAs (Decidable (_ ∧ _))

/-- Whether words set the work origin, in this order. -/
def SetsOrigin : Prop := ["G10".toList, "L20".toList, "P1".toList].Sublist (ws.map PlainWord.text)

instance : Decidable (SetsOrigin ws) := inferInstanceAs (Decidable (List.Sublist _ _))

def kindOf : Command :=
  if Names ws "G20" ∨ Names ws "G21" then .units
  else if StartsSpindle ws then .spindle
  else if Names ws "G38.2" then .probe
  else if SetsOrigin ws then .origin
  else if Names ws "G0" ∨ Names ws "G00" then .rapid
  else if Names ws "G4" ∨ Names ws "G04" then .dwell
  else .other

def PlainWord.coordinate? (w : PlainWord) : Option (Axis × Float) :=
  (Axis.ofLetter? w.letter).map fun a => (a, w.number.value)

/-- The values that words give to axes, from left to right. -/
def coordinates : List (Axis × Float) := ws.filterMap PlainWord.coordinate?

end Meaning

/-! ### The characters of plain numbers -/

theorem allDigits_digitText (ds : List (Fin 10)) : AllDigits (digitText ds) := by
  have hdigit : ∀ d : Fin 10, d.val.digitChar.isDigit = true := by decide
  intro c hc
  obtain ⟨d, -, rfl⟩ := List.mem_map.1 hc
  exact hdigit d

@[simp] theorem digitValues_digitText (ds : List (Fin 10)) :
    digitValues (digitText ds) = ds.map Fin.val := by
  rw [digitValues, digitText, List.map_map]
  exact List.map_congr_left fun d _ => toNat_digitChar d.isLt

namespace PlainNumber

variable {n : PlainNumber}

theorem body_ne_nil : n.body ≠ [] := by
  simp [body, digitText, n.whole_ne_nil]

theorem mem_body {c : Char} (hc : c ∈ n.body) : c.isDigit = true ∨ c = '.' := by
  rcases List.mem_append.1 hc with hc | hc
  · exact .inl (allDigits_digitText _ c hc)
  · rw [pointText] at hc
    split at hc
    · cases hc
    · exact (List.mem_cons.1 hc).symm.imp_left (allDigits_digitText _ c)

theorem text_ne_nil : n.text ≠ [] := fun h => body_ne_nil (List.append_eq_nil_iff.1 h).2

/-- After the first character of a number there is no sign. -/
theorem tail_text_subset : n.text.tail ⊆ n.body := by
  rw [text]
  cases n.sign with
  | none => exact List.tail_subset _
  | plus | minus => exact List.Subset.refl _

theorem count_point_text : n.text.count '.' ≤ 1 := by
  have hdigits (ds : List (Fin 10)) : (digitText ds).count '.' = 0 :=
    List.count_eq_zero.2 fun h => absurd (allDigits_digitText ds '.' h) (by decide)
  have hsign : n.sign.chars.count '.' = 0 := by cases n.sign <;> rfl
  have hpoint : n.pointText.count '.' ≤ 1 := by
    rw [pointText]
    split
    · exact Nat.zero_le _
    · rw [List.count_cons_self, hdigits]
  rw [text, body, List.count_append, List.count_append, hsign, hdigits]
  omega

/-- A front part of a number that nothing goes on with is all of it. -/
theorem eq_nil_of_text_append {front rest : List Char} (hfront : front ≠ []) (h : n.text = front ++ rest)
    (hrest : numberEnds rest = true) : rest = [] := by
  cases rest with
  | nil => rfl
  | cons c rest =>
      obtain ⟨b, front, rfl⟩ := List.exists_cons_of_ne_nil hfront
      have hc : c ∈ n.body := tail_text_subset (by simp [h])
      rcases mem_body hc with hdigit | rfl
      · simp [numberEnds, Text.isDigit, digitValue?_of_isDigit hdigit] at hrest
      · exact absurd hrest (by simp [numberEnds])

/-- After a number with a point there is no other one. -/
theorem numberEnds_of_noDigit {front rest : List Char} (hfront : '.' ∈ front)
    (h : n.text = front ++ rest) (hrest : noDigit rest = true) : numberEnds rest = true := by
  cases rest with
  | nil => rfl
  | cons c rest =>
      have hc : c ≠ '.' := by
        rintro rfl
        have hcount := count_point_text (n := n)
        have hpos := List.count_pos_iff.2 hfront
        rw [h, List.count_append, List.count_cons_self] at hcount
        omega
      rw [numberEnds, Bool.and_eq_true, bne_iff_ne]
      exact ⟨hrest, hc⟩

/-- A number has a front part with an end after it just when that part is all of it. -/
theorem any_literal_text {front : List Char} {ends : List Char → Bool} (hnil : ends [] = true)
    (hrest : ∀ rest, n.text = front ++ rest → ends rest = true → rest = []) :
    (literal front n.text).any ends = decide (n.text = front) := by
  rw [Bool.eq_iff_iff, decide_eq_true_iff, Option.any_eq_true]
  constructor
  · rintro ⟨rest, hliteral, hends⟩
    have htext := (literal_eq_some_iff.1 hliteral).symm
    rw [htext, hrest rest htext hends, List.append_nil]
  · intro htext
    exact ⟨[], literal_eq_some_iff.2 ((List.append_nil _).trans htext.symm), hnil⟩

theorem text_of_isBare (h : n.IsBare) : n.text = digitText n.whole := by
  simp [text, body, pointText, Sign.chars, h.1, h.2]

theorem unsigned?_body :
    Number.unsigned? n.body = some (⟨false, n.whole.map Fin.val, n.places.map Fin.val, 0⟩, []) := by
  obtain ⟨d, ds, hwhole⟩ := List.exists_cons_of_ne_nil n.whole_ne_nil
  rw [body, pointText, places]
  cases n.fraction with
  | none =>
      have hspan := spanDigits_append (allDigits_digitText n.whole) (show noDigit [] = true from rfl)
      rw [hwhole] at hspan
      simp [Number.unsigned?, hspan, hwhole, -List.append_nil]
  | some fs =>
      have hspan := spanDigits_append (allDigits_digitText n.whole)
        (show noDigit ('.' :: digitText fs) = true from rfl)
      have hfraction := spanDigits_append (allDigits_digitText fs) (show noDigit [] = true from rfl)
      rw [List.append_nil] at hfraction
      rw [hwhole] at hspan
      simp [Number.unsigned?, hspan, hwhole, hfraction]

theorem toFloat_eq_value (negative : Bool) (h : negative = decide (n.sign = .minus)) :
    (Numeral.mk negative (n.whole.map Fin.val) (n.places.map Fin.val) 0).toFloat = n.value := by
  rw [Numeral.toFloat, value, h, List.map_append, List.length_map, zero_sub]

theorem text_of_isUnsigned (h : n.IsUnsigned) : n.text = n.body := by
  rw [text, show n.sign = .none from h]
  rfl

theorem exists_text_eq_cons (h : ¬ n.IsUnsigned) : ∃ c, (c = '+' ∨ c = '-') ∧ n.text = c :: n.body := by
  rw [text]
  cases hsign : n.sign with
  | none => exact absurd hsign h
  | plus => exact ⟨'+', .inl rfl, rfl⟩
  | minus => exact ⟨'-', .inr rfl, rfl⟩

theorem unsigned?_text :
    (Number.unsigned? n.text).map (·.1.toFloat) = if n.IsUnsigned then some n.value else none := by
  split
  · next h =>
    rw [text_of_isUnsigned h, unsigned?_body]
    exact congrArg some (toFloat_eq_value _ (by rw [show n.sign = .none from h]; rfl))
  · next h =>
    obtain ⟨c, rfl | rfl, htext⟩ := exists_text_eq_cons h <;> rw [htext] <;> rfl

theorem takeSign_text : takeSign n.text = (decide (n.sign = .minus), n.body) := by
  rw [text]
  cases n.sign with
  | none =>
      obtain ⟨c, s, hbody⟩ := List.exists_cons_of_ne_nil (body_ne_nil (n := n))
      have hc : c ∈ n.body := by simp [hbody]
      have hplus : c ≠ '+' := by rintro rfl; exact absurd (mem_body hc) (by decide)
      have hminus : c ≠ '-' := by rintro rfl; exact absurd (mem_body hc) (by decide)
      simp [Sign.chars, hbody, takeSign, hplus, hminus]
  | plus | minus => rfl

theorem decimal?_text : (decimal? n.text).map (·.1.toFloat) = some n.value := by
  rw [decimal?, takeSign_text, unsigned?_body]
  exact congrArg some (toFloat_eq_value _ rfl)

/-- A number begins with a digit just when it has no sign. -/
theorem noDigit_text : noDigit n.text = !decide n.IsUnsigned := by
  by_cases h : n.IsUnsigned
  · obtain ⟨d, ds, hwhole⟩ := List.exists_cons_of_ne_nil n.whole_ne_nil
    have hdigit : d.val.digitChar.isDigit = true :=
      allDigits_digitText n.whole _ (by simp [hwhole, digitText])
    simp [text_of_isUnsigned h, h, body, hwhole, digitText, noDigit, Text.isDigit,
      digitValue?_of_isDigit hdigit]
  · obtain ⟨c, rfl | rfl, htext⟩ := exists_text_eq_cons h <;> simp [htext, h] <;> rfl

theorem text_subset_signedChars : n.text ⊆ signedChars := by
  have hdigits (ds : List (Fin 10)) : digitText ds ⊆ signedChars := by
    have hdigit : ∀ d : Fin 10, d.val.digitChar ∈ signedChars := by decide
    intro c hc
    obtain ⟨d, -, rfl⟩ := List.mem_map.1 hc
    exact hdigit d
  have hsign : n.sign.chars ⊆ signedChars := by cases n.sign <;> decide
  have hpoint : n.pointText ⊆ signedChars := by
    rw [pointText]
    split
    · exact List.nil_subset _
    · exact List.cons_subset.2 ⟨by decide, hdigits _⟩
  rw [text, body, List.append_subset, List.append_subset]
  exact ⟨hsign, hdigits _, hpoint⟩

end PlainNumber

/-! ### Plain words among words -/

namespace PlainWord

variable {w : PlainWord}

def toWord (w : PlainWord) : Word := ⟨w.letter, w.number.text⟩

theorem isNumbered_toWord : w.toWord.IsNumbered where
  nonempty := PlainNumber.text_ne_nil
  chars := PlainNumber.text_subset_signedChars

theorem isSound_toWord : w.toWord.IsSound where
  letter := w.isCapital_letter
  tail := List.Subset.trans PlainNumber.text_subset_signedChars (by decide)

/-- A plain word with a letter and a number is just that word. -/
theorem is_toWord {letter : Char} {number : List Char} (hnumber : number ≠ []) :
    w.toWord.is letter number = decide (w.text = letter :: number) := by
  have hall : (literal number w.number.text).any numberEnds = decide (w.number.text = number) :=
    PlainNumber.any_literal_text rfl fun _ => PlainNumber.eq_nil_of_text_append hnumber
  rw [Word.is, toWord, hall, text, Bool.eq_iff_iff]
  simp

theorem probes_toWord : w.toWord.probes = decide (w.text = "G38.2".toList) := by
  have hall : (literal "38.2".toList w.number.text).any noDigit =
      decide (w.number.text = "38.2".toList) := by
    refine PlainNumber.any_literal_text rfl fun rest htext hdigit => ?_
    have hends := PlainNumber.numberEnds_of_noDigit (by decide) htext hdigit
    exact PlainNumber.eq_nil_of_text_append (by decide) htext hends
  rw [Word.probes, toWord, hall, text, Bool.eq_iff_iff,
    show "G38.2".toList = 'G' :: "38.2".toList from rfl]
  simp only [Bool.and_eq_true, beq_iff_eq, decide_eq_true_iff, List.cons.injEq]

/-- Digits alone are the number of a spindle start just when they are one of four. -/
theorem isSpindleTail_iff {t : List Char} (ht : AllDigits t) :
    isSpindleTail t = true ↔ t ∈ ["3".toList, "4".toList, "03".toList, "04".toList] := by
  have hrest {s : List Char} (hs : s ⊆ t) : noDigit s = true ↔ s = [] := by
    cases s with
    | nil => simp [noDigit]
    | cons c s =>
        have hc := ht c (hs List.mem_cons_self)
        simp [noDigit, Text.isDigit, digitValue?_of_isDigit hc]
  rw [isSpindleTail.eq_def]
  split
  · next s => simp [hrest (s := s) (by simp)]
  · next s => simp [hrest (s := s) (by simp)]
  · next s => simp [hrest (s := s) (by simp)]
  · next s => simp [hrest (s := s) (by simp)]
  · next h03 h04 h3 h4 =>
    refine iff_of_false Bool.false_ne_true ?_
    simp only [List.mem_cons, List.not_mem_nil, or_false]
    rintro (rfl | rfl | rfl | rfl)
    · exact h3 [] rfl
    · exact h4 [] rfl
    · exact h03 [] rfl
    · exact h04 [] rfl

theorem isSpindle_toWord :
    w.toWord.isSpindle = decide (w.text ∈ ["M3".toList, "M4".toList, "M03".toList, "M04".toList]) := by
  rw [Bool.eq_iff_iff, decide_eq_true_iff, Word.isSpindle, Bool.and_eq_true, beq_iff_eq]
  by_cases hletter : w.letter = 'M'
  · have hdigits : AllDigits w.number.text := by
      rw [PlainNumber.text_of_isBare (w.isBare_of_M hletter)]
      exact allDigits_digitText _
    rw [toWord, isSpindleTail_iff hdigits]
    simp [text, hletter]
  · simp [toWord, text, hletter]

theorem isSpeed_toWord : w.toWord.isSpeed = decide (w.letter = 'S' ∧ w.number.IsUnsigned) := by
  rw [Word.isSpeed, toWord, PlainNumber.noDigit_text, Bool.not_not, Bool.eq_iff_iff]
  simp

/-- The number of a plain word without a sign is read as its value. -/
theorem unsigned?_toWord (letter : Char) :
    w.toWord.unsigned? letter =
      if w.letter = letter ∧ w.number.IsUnsigned then some w.number.value else none := by
  rw [Word.unsigned?, toWord, PlainNumber.unsigned?_text]
  split <;> simp_all

theorem axisValue?_toWord : w.toWord.axisValue? = w.coordinate? := by
  rw [Word.axisValue?, coordinate?, toWord]
  cases Axis.ofLetter? w.letter with
  | none => rfl
  | some a =>
      obtain ⟨n, hn, hvalue⟩ := Option.map_eq_some_iff.1 (PlainNumber.decimal?_text (n := w.number))
      simp [hn, ← hvalue]

end PlainWord

section Line

variable {ws : List PlainWord} {s : List Char}

theorem IsWordLine.spells (h : IsWordLine ws s) : Spells (ws.map PlainWord.toWord) s := by
  induction h with
  | last w =>
      have hlast := Spells.cons w.isSound_toWord (List.forall_mem_nil _) Spells.nil
      rwa [List.append_nil, List.append_nil] at hlast
  | cons w hgap _ ih => exact Spells.cons w.isSound_toWord hgap ih

theorem isNumbered_map_toWord : ∀ w ∈ ws.map PlainWord.toWord, w.IsNumbered := by
  intro w hw
  obtain ⟨v, -, rfl⟩ := List.mem_map.1 hw
  exact v.isNumbered_toWord

/-- A test that one word alone passes says whether it stands among others. -/
theorem any_map_toWord {test : Word → Bool} {word : String}
    (htest : ∀ w : PlainWord, test w.toWord = decide (w.text = word.toList)) :
    (ws.map PlainWord.toWord).any test = decide (Names ws word) := by
  rw [Bool.eq_iff_iff, decide_eq_true_iff, Names, List.any_map, List.any_eq_true, List.mem_map]
  refine exists_congr fun w => and_congr_right fun _ => ?_
  rw [Function.comp_apply, htest, decide_eq_true_iff]

theorem any_is_map_toWord {letter : Char} {number : List Char} (word : String)
    (hword : word.toList = letter :: number) (hnumber : number ≠ []) :
    (ws.map PlainWord.toWord).any (Word.is letter number) = decide (Names ws word) :=
  any_map_toWord fun w => by rw [hword, w.is_toWord hnumber]

theorem hasWord_eq_names (h : IsWordLine ws s) {number : List Char} (word : String)
    (hword : word.toList = 'G' :: number) (hnumber : number ≠ []) (hchars : number ⊆ numberChars) :
    hasWord word.toList s = decide (Names ws word) := by
  rw [hword, hasG_eq h.spells number hchars, any_is_map_toWord word hword hnumber]

/-- Words occur in an order just when they are a sublist. -/
theorem inOrder_map_toWord {keys : List (Char × List Char)} (hkeys : ∀ k ∈ keys, k.2 ≠ []) :
    inOrder keys (ws.map PlainWord.toWord) = true ↔
      (keys.map fun k => k.1 :: k.2).Sublist (ws.map PlainWord.text) := by
  induction ws generalizing keys with
  | nil => cases keys <;> simp [inOrder]
  | cons w ws ih =>
      cases keys with
      | nil => simp [inOrder]
      | cons k keys =>
          have hk := hkeys k List.mem_cons_self
          have hrest := ih fun k hk => hkeys k (List.mem_cons_of_mem _ hk)
          have hsame := ih hkeys
          rw [List.map_cons, inOrder, Bool.or_eq_true, Bool.and_eq_true, hrest, hsame,
            PlainWord.is_toWord hk, decide_eq_true_iff, List.map_cons, List.map_cons,
            List.cons_sublist_cons', or_comm, eq_comm]

theorem any_probes_map_toWord :
    (ws.map PlainWord.toWord).any Word.probes = decide (Names ws "G38.2") :=
  any_map_toWord fun w => w.probes_toWord

theorem startsSpindle_map_toWord :
    ((ws.map PlainWord.toWord).any Word.isSpeed && (ws.map PlainWord.toWord).any Word.isSpindle) =
      decide (StartsSpindle ws) := by
  have hspindle : (∃ w ∈ ws, w.text ∈ ["M3".toList, "M4".toList, "M03".toList, "M04".toList]) ↔
      Names ws "M3" ∨ Names ws "M4" ∨ Names ws "M03" ∨ Names ws "M04" := by
    simp only [Names, List.mem_map, List.mem_cons, List.not_mem_nil, or_false, and_or_left, exists_or]
  rw [Bool.eq_iff_iff, decide_eq_true_iff, Bool.and_eq_true, StartsSpindle, ← hspindle]
  simp [PlainWord.isSpeed_toWord, PlainWord.isSpindle_toWord]

theorem setsOrigin_map_toWord :
    inOrder [('G', "10".toList), ('L', "20".toList), ('P', "1".toList)] (ws.map PlainWord.toWord) =
      decide (SetsOrigin ws) := by
  rw [Bool.eq_iff_iff, decide_eq_true_iff, inOrder_map_toWord (by decide)]
  exact Iff.rfl

/-- The kind of plain words that are not the return to the origin. -/
theorem commandOf_map_toWord : commandOf false (ws.map PlainWord.toWord) = kindOf ws := by
  have hG (number word : String) (hword : word.toList = 'G' :: number.toList) (hne : number.toList ≠ []) :
      (ws.map PlainWord.toWord).any (Word.is 'G' number.toList) = decide (Names ws word) :=
    any_is_map_toWord word hword hne
  rw [commandOf, startsSpindle_map_toWord, any_probes_map_toWord, setsOrigin_map_toWord,
    hG "20" "G20" rfl (by decide), hG "21" "G21" rfl (by decide), hG "0" "G0" rfl (by decide),
    hG "00" "G00" rfl (by decide), hG "4" "G4" rfl (by decide), hG "04" "G04" rfl (by decide), kindOf]
  simp only [Bool.or_eq_true, decide_eq_true_iff, Bool.false_eq_true, if_false]

theorem findSome?_unsigned?_map_toWord (letter : Char) :
    (ws.map PlainWord.toWord).findSome? (Word.unsigned? letter) =
      (ws.find? fun w => w.letter = letter ∧ w.number.IsUnsigned).map (·.number.value) := by
  induction ws with
  | nil => rfl
  | cons w ws ih =>
      rw [List.map_cons, List.findSome?_cons, PlainWord.unsigned?_toWord, ih, List.find?_cons]
      by_cases h : w.letter = letter ∧ w.number.IsUnsigned <;> simp [h]

end Line

/-! ### The return to the origin -/

theorem exists_gap_of_isSpaced {w v : List Char} {vs : List (List Char)} {s : List Char}
    (h : isSpaced (w :: v :: vs) s = true) :
    ∃ gap r, IsGap gap ∧ s = w ++ (gap ++ r) ∧ isSpaced (v :: vs) r = true := by
  simp only [isSpaced] at h
  split at h
  · next c r hliteral =>
    rw [Bool.and_eq_true] at h
    have hgap : ∀ b ∈ c :: r.takeWhile isBlank, isBlank b = true := by
      intro b hb
      rcases List.mem_cons.1 hb with rfl | hb
      · exact h.1
      · exact List.mem_takeWhile_imp hb
    refine ⟨_, trimStart r, ⟨List.cons_ne_nil _ _, hgap⟩, ?_, h.2⟩
    rw [← literal_eq_some_iff.1 hliteral, List.cons_append, trimStart, List.takeWhile_append_dropWhile]
  · cases h

theorem isFooter_of_isReturn {s : List Char} (h : isReturn s = true) : IsFooter s := by
  obtain ⟨a, afterFirst, ha, hs, hfirst⟩ := exists_gap_of_isSpaced h
  obtain ⟨b, afterSecond, hb, hs', hsecond⟩ := exists_gap_of_isSpaced hfirst
  obtain ⟨c, last, hc, hs'', hlast⟩ := exists_gap_of_isSpaced hsecond
  rw [isSpaced, beq_iff_eq] at hlast
  exact ⟨a, b, c, ha, hb, hc, by rw [hs, hs', hs'', hlast]⟩

/-- A line of words is read by its words.  Its kind, its mode and its system are told by which words
there are, the values of axes are given by the words of axes from left to right, and the feed rate
is that of the first `F` word without a sign. -/
theorem wordLine_readings {ws : List PlainWord} {s : List Char} (h : IsWordLine ws s) :
    (¬ IsFooter s → classify s = kindOf ws) ∧
    modeOf s = (if Names ws "G91" then .relative else if Names ws "G90" then .absolute else .none) ∧
    systemOf s = (if Names ws "G53" then .machine else if Names ws "G54" then .wcs else .none) ∧
    (axes s).entries.map (·.1) = ((coordinates ws).map (·.1)).eraseDups ∧
    (∀ a, (axes s).get? a = (coordinates ws).reverse.lookup a) ∧
    feed? s = (ws.find? fun w => w.letter = 'F' ∧ w.number.IsUnsigned).map (·.number.value) := by
  have hspells := h.spells
  have haxes : axes s = ByAxis.ofList (coordinates ws) := by
    rw [axes_eq hspells isNumbered_map_toWord, coordinates, List.filterMap_map]
    congr 2
    exact funext fun w => PlainWord.axisValue?_toWord
  refine ⟨fun hfooter => ?_, ?_, ?_, ?_, fun a => ?_, ?_⟩
  · have hreturn : isReturn s = false := by
      rw [← Bool.not_eq_true]
      exact fun hreturn => hfooter (isFooter_of_isReturn hreturn)
    rw [classify_eq hspells, hreturn, commandOf_map_toWord]
  · rw [modeOf, hasWord_eq_names h "G91" rfl (by decide) (by decide),
      hasWord_eq_names h "G90" rfl (by decide) (by decide)]
    simp only [decide_eq_true_iff]
  · rw [systemOf, hasWord_eq_names h "G53" rfl (by decide) (by decide),
      hasWord_eq_names h "G54" rfl (by decide) (by decide)]
    simp only [decide_eq_true_iff]
  · rw [haxes, ByAxis.map_fst_ofList]
  · rw [haxes, ByAxis.get?_ofList]
  · rw [feed?_eq hspells isNumbered_map_toWord, findSome?_unsigned?_map_toWord]

/-- Words that run together are a line of words. -/
theorem isWordLine_flatMap (w : PlainWord) (ws : List PlainWord) :
    IsWordLine (w :: ws) ((w :: ws).flatMap PlainWord.text) := by
  induction ws generalizing w with
  | nil => simpa using IsWordLine.last w
  | cons v ws ih =>
      rw [List.flatMap_cons, ← List.nil_append ((v :: ws).flatMap PlainWord.text)]
      exact .cons w (List.forall_mem_nil _) (ih v)

/-- The words `S100`, `M04`, `X5`, `F-1`, `F2.5` and `X-3`. -/
def runTogether : List PlainWord := [
  ⟨'S', ⟨.none, [1, 0, 0], none, by decide⟩, by decide, by decide⟩,
  ⟨'M', ⟨.none, [0, 4], none, by decide⟩, by decide, by decide⟩,
  ⟨'X', ⟨.none, [5], none, by decide⟩, by decide, by decide⟩,
  ⟨'F', ⟨.minus, [1], none, by decide⟩, by decide, by decide⟩,
  ⟨'F', ⟨.none, [2], some [5], by decide⟩, by decide, by decide⟩,
  ⟨'X', ⟨.minus, [3], none, by decide⟩, by decide, by decide⟩]

theorem wordLine_readings_runTogether :
    let s := "S100M04X5F-1F2.5X-3".toList
    IsWordLine runTogether s ∧ ¬ IsFooter s ∧ classify s = .spindle ∧ modeOf s = .none ∧
      systemOf s = .none ∧ (axes s).entries.map (·.1) = [.x] ∧
      (axes s).get? .x = some (nearestDecimal true 3 0) ∧
      feed? s = some (nearestDecimal false 25 (-1)) := by
  intro s
  have hline : IsWordLine runTogether s := isWordLine_flatMap _ _
  have hfooter : ¬ IsFooter s := by
    rintro ⟨a, b, c, -, -, -, hs⟩
    exact absurd (congrArg List.head? hs) (by simp [s])
  obtain ⟨hclass, hmode, hsystem, haxes, hvalues, hfeed⟩ := wordLine_readings hline
  refine ⟨hline, hfooter, (hclass hfooter).trans ?_, hmode.trans ?_, hsystem.trans ?_, haxes.trans ?_,
    (hvalues .x).trans ?_, hfeed.trans ?_⟩
  · decide
  · decide
  · decide
  · decide
  · rfl
  · rfl

end Program

end TouchProbe
