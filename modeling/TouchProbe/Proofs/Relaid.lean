import TouchProbe.FileTree.Load
import TouchProbe.Proofs.Masks

/-!
The layout of a program does not matter: neither lines that say nothing, nor blanks around a line,
nor the case of the letters of its command.  Such changes shift the lines, and with them the runs of
clearing pauses, but every line that says something keeps its role.
-/

namespace TouchProbe

namespace Text

/-! ### Blanks around a line -/

theorem trimEnd_cons (c : Char) (s : List Char) :
    trimEnd (c :: s) = if (trimEnd s).isEmpty && isBlank c then [] else c :: trimEnd s := by
  rw [trimEnd, trimEnd, List.reverse_cons, List.dropWhile_append, List.isEmpty_reverse]
  cases hempty : (s.reverse.dropWhile isBlank).isEmpty with
  | false => simp
  | true =>
      have hnil := List.isEmpty_iff.1 hempty
      cases hblank : isBlank c <;> simp [hblank, hnil]

theorem trimStart_append_blanks (s : List Char) {bs : List Char} (h : ∀ b ∈ bs, isBlank b = true) :
    trimStart (s ++ bs) = if (trimStart s).isEmpty then [] else trimStart s ++ bs := by
  rw [trimStart, List.dropWhile_append, List.dropWhile_eq_nil_iff.2 h]
  rfl

/-- Blanks at the ends of a text make no difference to it once it is trimmed. -/
theorem trim_padded {left right : List Char} (hleft : ∀ b ∈ left, isBlank b = true)
    (hright : ∀ b ∈ right, isBlank b = true) (s : List Char) :
    trim (left ++ s ++ right) = trim s := by
  have hstart : trimStart (left ++ s ++ right) = trimStart (s ++ right) := by
    rw [List.append_assoc, trimStart, List.dropWhile_append_of_pos hleft, trimStart]
  rw [trim, hstart, trimStart_append_blanks s hright, trim]
  split
  · next hempty => rw [List.isEmpty_iff.1 hempty]
  · exact trimEnd_append_blanks _ hright

/-! ### The case of letters -/

theorem toNat_of_isAlpha {c : Char} (h : c.isAlpha = true) : 65 ≤ c.toNat ∧ c.toNat ≤ 122 := by
  simp only [Char.isAlpha, Char.isUpper, Char.isLower, UInt32.le_iff_toNat_le, Bool.or_eq_true,
    Bool.and_eq_true, decide_eq_true_eq, Char.toNat_val] at h
  have hA : 'A'.toNat = 65 := rfl
  have hZ : 'Z'.toNat = 90 := rfl
  have ha : 'a'.toNat = 97 := rfl
  have hz : 'z'.toNat = 122 := rfl
  omega

/-- Two characters that differ in case alone are one character or two ASCII letters. -/
theorem eq_or_isAlpha {c d : Char} (h : c.toUpper = d.toUpper) :
    c = d ∨ c.isAlpha = true ∧ d.isAlpha = true := by
  have halpha : c.isAlpha = d.isAlpha := by
    rw [← Char.isAlpha_toUpper_eq_isAlpha c, h, Char.isAlpha_toUpper_eq_isAlpha]
  by_cases hc : c.isAlpha = true
  · exact .inr ⟨hc, halpha ▸ hc⟩
  · -- Raising changes lower case letters alone.
    have hlower {e : Char} (he : ¬ e.isAlpha = true) : e.toUpper = e :=
      Char.toUpper_eq_of_not_isLower fun hl => he (by simp [Char.isAlpha, hl])
    exact .inl (by rw [← hlower hc, h, hlower (halpha ▸ hc)])

theorem isBlank_of_isAlpha {c : Char} (h : c.isAlpha = true) : isBlank c = false := by
  have hn := toNat_of_isAlpha h
  have hlow : c.toNat < 128 := by omega
  have hnot : ¬ (c.toNat ≤ 13) ∧ ¬ (c.toNat ≤ 32) := by omega
  simp [isBlank, hlow, hnot]

theorem isBlank_recased {c d : Char} (h : c.toUpper = d.toUpper) : isBlank c = isBlank d := by
  rcases eq_or_isAlpha h with rfl | ⟨hc, hd⟩
  · rfl
  · rw [isBlank_of_isAlpha hc, isBlank_of_isAlpha hd]

theorem upperChar_recased {c d : Char} (h : c.toUpper = d.toUpper) : upperChar c = upperChar d := by
  rcases eq_or_isAlpha h with rfl | ⟨hc, hd⟩
  · rfl
  · have hlow {e : Char} (he : e.isAlpha = true) : e.toNat < 128 := by
      have := toNat_of_isAlpha he
      omega
    rw [upperChar, upperChar, if_pos (hlow hc), if_pos (hlow hd), h]

theorem opening_recased {c d : Char} (h : c.toUpper = d.toUpper) (hc : c ≠ '(') : d ≠ '(' := by
  rintro rfl
  rcases eq_or_isAlpha h with rfl | ⟨-, hd⟩
  · exact hc rfl
  · exact absurd hd (by decide)

end Text

namespace Program

open Text Number State

/-- A line with the case of ASCII letters changed before its first parenthesis. -/
inductive Recased : List Char → List Char → Prop
  | nil : Recased [] []
  | comment (s : List Char) : Recased ('(' :: s) ('(' :: s)
  | code {c d : Char} {s t : List Char} (noOpening : c ≠ '(') (sameLetter : c.toUpper = d.toUpper)
      (rest : Recased s t) : Recased (c :: s) (d :: t)

namespace Recased

variable {s t : List Char} (h : Recased s t)

include h

theorem isEmpty_eq : s.isEmpty = t.isEmpty := by
  cases h <;> rfl

theorem trimStart : Recased (trimStart s) (trimStart t) := by
  induction h with
  | nil => exact .nil
  | comment s => exact .comment s
  | code noOpening sameLetter rest ih =>
      rw [Text.trimStart, Text.trimStart, List.dropWhile_cons, List.dropWhile_cons,
        ← isBlank_recased sameLetter]
      split
      · exact ih
      · exact .code noOpening sameLetter rest

theorem trimEnd : Recased (trimEnd s) (trimEnd t) := by
  induction h with
  | nil => exact .nil
  | comment s =>
      have hblank : isBlank '(' = false := by decide
      rw [trimEnd_cons, hblank, Bool.and_false, if_neg Bool.false_ne_true]
      exact .comment _
  | code noOpening sameLetter rest ih =>
      rw [trimEnd_cons, trimEnd_cons, ← isBlank_recased sameLetter, ← ih.isEmpty_eq]
      split
      · exact .nil
      · exact .code noOpening sameLetter ih

theorem trim : Recased (trim s) (trim t) := h.trimStart.trimEnd

theorem isComment_eq : isComment s = isComment t := by
  cases h with
  | nil => rfl
  | comment s => rfl
  | code noOpening sameLetter rest =>
      simp [isComment, noOpening, opening_recased sameLetter noOpening]

theorem isPreMovesBanner_eq : isPreMovesBanner s = isPreMovesBanner t := by
  cases h with
  | nil => rfl
  | comment s => rfl
  | code noOpening sameLetter rest =>
      simp [isPreMovesBanner, noOpening, opening_recased sameLetter noOpening]

theorem command : Recased (s.takeWhile (· != '(')) (t.takeWhile (· != '(')) := by
  induction h with
  | nil => exact .nil
  | comment s => exact .nil
  | code noOpening sameLetter rest ih =>
      simp only [List.takeWhile_cons, bne_iff_ne.2 noOpening,
        bne_iff_ne.2 (opening_recased sameLetter noOpening), if_true]
      exact .code noOpening sameLetter ih

theorem upper_eq : upper s = upper t := by
  induction h with
  | nil => rfl
  | comment s => rfl
  | code noOpening sameLetter rest ih =>
      rw [upper_cons, upper_cons, upperChar_recased sameLetter, ih]

theorem comment?_eq : comment? s = comment? t := by
  have hfirst : firstAnywhere commentAt? s = firstAnywhere commentAt? t := by
    induction h with
    | nil => rfl
    | comment s => rfl
    | code noOpening sameLetter rest ih =>
        rw [firstAnywhere, firstAnywhere, commentAt?_of_ne noOpening,
          commentAt?_of_ne (opening_recased sameLetter noOpening), ih]
  rw [comment?, comment?, hfirst]

/-- The case of the letters of its command makes no difference to what a line says. -/
theorem saySame : SaySame s t where
  isEmpty := h.trim.isEmpty_eq
  isComment := h.trim.isComment_eq
  isBanner := h.trim.isPreMovesBanner_eq
  code := h.trim.command.trim.upper_eq
  comment := h.trim.comment?_eq

end Recased

/-- The mark of a line is what it says of the runs. -/
theorem SaySame.markOf_eq {line line' : List Char} (h : SaySame line line') :
    markOf line = markOf line' := by
  simp only [markOf, isClearing, trim_trim, h.isEmpty, h.isComment, h.code]

/-! ### Programs that are laid out anew -/

/-- Whether a line says nothing: it is blank, or a comment other than the banner of moves before a
probe. -/
def isIdle (line : List Char) : Bool :=
  (trim line).isEmpty || (isComment (trim line) && !isPreMovesBanner (trim line))

theorem markOf_of_isIdle {line : List Char} (h : isIdle line = true) : markOf line = .passes := by
  simp only [isIdle, Bool.or_eq_true, Bool.and_eq_true] at h
  rw [markOf, if_pos]
  simp only [Bool.or_eq_true]
  exact h.imp id And.left

theorem readLine_of_isIdle {line : List Char} (h : isIdle line = true) (st : State) (index : Nat)
    (role : Role) : st.readLine index role line = st := by
  simp only [isIdle, Bool.or_eq_true, Bool.and_eq_true, Bool.not_eq_true'] at h
  simp only [readLine]
  rcases h with h | ⟨hcomment, hbanner⟩
  · rw [if_pos h]
  · split
    · rfl
    · simp [readComment, hbanner]

/-- Lines that say the same as other lines, one after the other, with lines between them that say
nothing. -/
inductive Relaid : List (List Char) → List (List Char) → Prop
  | nil : Relaid [] []
  | added {line : List Char} {lines lines' : List (List Char)} (isIdle : isIdle line = true)
      (rest : Relaid lines lines') : Relaid lines (line :: lines')
  | kept {line line' : List Char} {lines lines' : List (List Char)} (same : SaySame line line')
      (rest : Relaid lines lines') : Relaid (line :: lines) (line' :: lines')

namespace Relaid

theorem refl : ∀ lines : List (List Char), Relaid lines lines
  | [] => .nil
  | line :: lines => .kept (.refl line) (refl lines)

theorem append {before lines lines' : List (List Char)} (h : Relaid lines lines') :
    Relaid (before ++ lines) (before ++ lines') := by
  induction before with
  | nil => exact h
  | cons line before ih => exact .kept (.refl line) ih

/-- New lines between clearing pauses do not change their number. -/
theorem pausesAhead_eq {lines lines' : List (List Char)} (h : Relaid lines lines') :
    pausesAhead (lines.map markOf) = pausesAhead (lines'.map markOf) := by
  induction h with
  | nil => rfl
  | added isIdle rest ih =>
      rw [List.map_cons, markOf_of_isIdle isIdle, pausesAhead]
      exact ih
  | kept same rest ih =>
      rw [List.map_cons, List.map_cons, ← same.markOf_eq]
      cases markOf _ with
      | clears => rw [pausesAhead, pausesAhead, ih]
      | passes => rw [pausesAhead, pausesAhead, ih]
      | ends => rfl

theorem pauseRole_eq {lines lines' : List (List Char)} (h : Relaid lines lines') (inRun : Bool) :
    pauseRole inRun (lines.map markOf) = pauseRole inRun (lines'.map markOf) := by
  rw [pauseRole, pauseRole, h.pausesAhead_eq]

end Relaid

/-- The mask that shows no labels. -/
def unlabelled : Mask where
  problem p := some ⟨0, [], p.problem⟩
  line _ := 0

theorem unlabelled_joins (line : Nat) (text : List Char) (line' : Nat) (text' : List Char) :
    unlabelled.Joins line text line' text' := ⟨rfl, fun _ => rfl⟩

/-- Programs that are laid out differently are read alike, whatever the numbers of their lines. -/
theorem Relaid.readFrom_eq {lines lines' : List (List Char)} (h : Relaid lines lines') (inRun : Bool)
    {st st' : State} (hst : unlabelled.state st = unlabelled.state st') (index index' : Nat) :
    unlabelled.state (readFrom inRun index st lines) =
      unlabelled.state (readFrom inRun index' st' lines') := by
  induction h generalizing inRun st st' index index' with
  | nil => exact hst
  | added isIdle rest ih =>
      -- The new line moves only the index of the second run on.
      rw [readFrom, markOf_of_isIdle isIdle]
      simp only
      rw [readLine_of_isIdle isIdle]
      exact ih inRun hst index (index' + 1)
  | kept same rest ih =>
      have hline (role : Role) :=
        Mask.readLine_congr hst same (unlabelled_joins (index + 1) _ (index' + 1) _) role
      rw [readFrom, readFrom, ← same.markOf_eq, ← rest.pauseRole_eq]
      split
      · exact ih true (hline _) _ _
      · exact ih inRun (hline _) _ _
      · exact ih false (hline _) _ _

/-! ### Changes of the layout -/

/-- One change of the layout of a program: a new line that says nothing, blanks around a line, or
the case of letters before the first parenthesis of a line. -/
inductive LayoutChange : List (List Char) → List (List Char) → Prop
  | newLine (before after : List (List Char)) {line : List Char} (isIdle : isIdle line = true) :
      LayoutChange (before ++ after) (before ++ line :: after)
  | blanks (before after : List (List Char)) (line : List Char) {left right : List Char}
      (left_blank : ∀ b ∈ left, isBlank b = true) (right_blank : ∀ b ∈ right, isBlank b = true) :
      LayoutChange (before ++ line :: after) (before ++ (left ++ line ++ right) :: after)
  | letterCase (before after : List (List Char)) {line line' : List Char}
      (recased : Recased line line') :
      LayoutChange (before ++ line :: after) (before ++ line' :: after)

theorem LayoutChange.relaid {lines lines' : List (List Char)} (h : LayoutChange lines lines') :
    Relaid lines lines' := by
  cases h with
  | newLine before after isIdle => exact .append (.added isIdle (.refl after))
  | blanks before after line left_blank right_blank =>
      have hsay := SaySame.of_trim (trim_padded left_blank right_blank line).symm
      exact .append (.kept hsay (.refl after))
  | letterCase before after recased => exact .append (.kept recased.saySame (.refl after))

/-- A result without the numbers and the texts of lines is the same after a change of the layout. -/
theorem LayoutChange.reading_eq {lines lines' : List (List Char)} (h : LayoutChange lines lines') :
    unlabelled.reading (readLines lines').closeProbe.reading =
      unlabelled.reading (readLines lines).closeProbe.reading := by
  have hstate := h.relaid.readFrom_eq false (rfl : unlabelled.state {} = unlabelled.state {}) 0 0
  rw [← readLines_eq, ← readLines_eq] at hstate
  rw [← Mask.reading_state, ← Mask.reading_state, Mask.state_closeProbe, Mask.state_closeProbe, hstate]

theorem reading_of_layoutChanges {lines lines' : List (List Char)}
    (h : Relation.ReflTransGen LayoutChange lines lines') :
    unlabelled.reading (readLines lines').closeProbe.reading =
      unlabelled.reading (readLines lines).closeProbe.reading := by
  induction h with
  | refl => rfl
  | tail _ hchange ih => exact hchange.reading_eq.trans ih

/-! ### Line ends -/

theorem readLine_trim (st : State) (index : Nat) (role : Role) (line : List Char) :
    st.readLine index role (trim line) = st.readLine index role line := by
  simp only [readLine, trim_trim]

theorem readLines_map_trim (lines : List (List Char)) :
    readLines (lines.map trim) = readLines lines := by
  have hmarks : (lines.map trim).map markOf = lines.map markOf := by
    rw [List.map_map]
    exact List.map_congr_left fun line _ => by simp only [Function.comp_apply, markOf, trim_trim]
  simp only [readLines, runs, hmarks, List.zipIdx_map, List.foldl_map, Prod.map_fst, Prod.map_snd,
    id_eq, readLine_trim]

/-- Whether every return character stands right before a newline. -/
def ReturnsArePaired (s : List Char) : Prop :=
  ∀ before after, s = before ++ '\r' :: after → after.head? = some '\n'

theorem ReturnsArePaired.tail {c : Char} {s : List Char} (h : ReturnsArePaired (c :: s)) :
    ReturnsArePaired s :=
  fun before after hs => h (c :: before) after (by rw [hs, List.cons_append])

/-- The lines of a text with newlines alone are those of the text, but for return characters at
their ends. -/
theorem splitOn_universalNewlines {s : List Char} (h : ReturnsArePaired s) :
    List.Forall₂ (fun line line' => line = line' ∨ line = line' ++ ['\r']) (splitOn '\n' s)
      (splitOn '\n' (universalNewlines s)) := by
  fun_induction universalNewlines s with
  | case1 s ih =>
      -- A return and a newline: the line before them ends in the return.
      have hrest := ih h.tail.tail
      have hsplit := splitOn_append_cons (show '\n' ∉ ['\r'] by decide) s
      rw [List.singleton_append] at hsplit
      rw [hsplit, splitOn, if_pos rfl]
      exact .cons (.inr rfl) hrest
  | case2 s hnone ih =>
      -- A return alone, of which there is none.
      obtain ⟨t, rfl⟩ := List.head?_eq_some_iff.1 (h [] s rfl)
      exact absurd rfl (hnone t)
  | case3 c s hpaired halone ih =>
      have hrest := ih h.tail
      by_cases hc : c = '\n'
      · rw [hc, splitOn, splitOn, if_pos rfl, if_pos rfl]
        exact .cons (.inl rfl) hrest
      · rw [splitOn, splitOn, if_neg hc, if_neg hc]
        obtain ⟨part, parts, hparts⟩ := List.exists_cons_of_ne_nil (splitOn_ne_nil '\n' s)
        obtain ⟨part', parts', hparts'⟩ :=
          List.exists_cons_of_ne_nil (splitOn_ne_nil '\n' (universalNewlines s))
        rw [hparts, hparts', List.forall₂_cons] at hrest
        rw [hparts, hparts']
        refine .cons (hrest.1.imp (congrArg (c :: ·)) fun hreturn => ?_) hrest.2
        rw [hreturn, List.cons_append]
  | case4 => exact .cons (.inl rfl) .nil

/-- A text with newlines alone is read as the text is. -/
theorem read_universalNewlines {text : String} (h : ReturnsArePaired text.toList) :
    read (String.ofList (universalNewlines text.toList)) = read text := by
  have hreturn : ∀ b ∈ ['\r'], isBlank b = true := List.forall_mem_singleton.2 rfl
  have htrim : (splitOn '\n' (universalNewlines text.toList)).map trim =
      (splitOn '\n' text.toList).map trim := by
    rw [eq_comm, ← List.forall₂_eq_eq_eq, List.forall₂_map_left_iff, List.forall₂_map_right_iff]
    refine (splitOn_universalNewlines h).imp fun line line' hline => ?_
    rcases hline with rfl | rfl
    · rfl
    · exact trim_padded (List.forall_mem_nil _) hreturn line'
  rw [read, read, linesOf, linesOf, String.toList_ofList, ← readLines_map_trim, htrim,
    readLines_map_trim]

/-- The layout of a program does not matter.  A program that is changed by new lines that say
nothing, by blanks around lines and by the case of the letters of commands is read alike, but for
the numbers of lines and the texts of lines with a problem.  A file with either kind of line end is
read as its text is. -/
theorem read_of_layoutChanges :
    (∀ text text' : String, Relation.ReflTransGen LayoutChange (linesOf text) (linesOf text') →
      unlabelled.reading (read text') = unlabelled.reading (read text)) ∧
    ∀ (tree : FileTree) (a : Address) (bytes : List UInt8) (text : String),
      tree.find a = .file bytes → Text.decode bytes = .ok text → ReturnsArePaired text.toList →
        tree.loadProgram a = .ok (read text) := by
  constructor
  · intro text text' h
    rw [read, read]
    exact reading_of_layoutChanges h
  · intro tree a bytes text hfile hdecode hpaired
    rw [FileTree.loadProgram, FileTree.programText, hfile, ← read_universalNewlines hpaired]
    simp only [hdecode]
    rfl

/-- A pause in lower case under a comment, and a file with a pause and a return at its line end. -/
theorem read_of_layoutChanges_pause :
    unlabelled.reading (read "(Start)\n\tg4 p3\r") = unlabelled.reading (read "G4 P3") ∧
      FileTree.loadProgram ⟨[], [(["part"], .file [71, 52, 32, 80, 51, 13, 10])]⟩ ⟨true, ["part"]⟩ =
        .ok (read "G4 P3\r\n") := by
  obtain ⟨hlayout, hfile⟩ := read_of_layoutChanges
  constructor
  · apply hlayout
    have hcase : Recased "G4 P3".toList "g4 p3".toList :=
      .code (by decide) (by decide) <| .code (by decide) (by decide) <|
        .code (by decide) (by decide) <| .code (by decide) (by decide) <|
        .code (by decide) (by decide) .nil
    have hrecased : LayoutChange (linesOf "G4 P3") ["g4 p3".toList] := .letterCase [] [] hcase
    have hblanks : LayoutChange ["g4 p3".toList] ["\tg4 p3\r".toList] :=
      .blanks [] [] "g4 p3".toList (List.forall_mem_singleton.2 rfl)
        (List.forall_mem_singleton.2 rfl)
    have hnew : LayoutChange ["\tg4 p3\r".toList] (linesOf "(Start)\n\tg4 p3\r") :=
      .newLine [] ["\tg4 p3\r".toList] (by decide : isIdle "(Start)".toList = true)
    exact ((Relation.ReflTransGen.single hrecased).tail hblanks).tail hnew
  · have hpaired : ReturnsArePaired "G4 P3\r\n".toList := by
      intro before after h
      have hchars : "G4 P3\r\n".toList = ['G', '4', ' ', 'P', '3', '\r', '\n'] := rfl
      simp [hchars, List.cons_eq_append_iff] at h
      simp [h]
    exact hfile _ _ [71, 52, 32, 80, 51, 13, 10] _ (by decide +kernel) rfl hpaired

end Program

end TouchProbe
