import TouchProbe.Program.Command
import TouchProbe.Program.Reader
import Mathlib

/-!
Lines come back from a text, and the command and the comment of a line come back from the line
they were put on.  A comment may hold parentheses: the command ends at the first one that opens,
and the comment ends at the last one that closes.
-/

namespace TouchProbe

namespace Text

/-! ### Trimmed texts -/

theorem isBlank_space : isBlank ' ' = true := by decide

theorem trimStart_eq_self {s : List Char} (h : trim s = s) : trimStart s = s := by
  have hlen : (trimStart s).length = s.length := by
    apply Nat.le_antisymm
    · exact (List.dropWhile_sublist _).length_le
    · calc s.length = (trim s).length := by rw [h]
        _ ≤ (trimStart s).length := by
          rw [trim, trimEnd, List.length_reverse]
          exact (List.dropWhile_sublist _).length_le.trans_eq (List.length_reverse)
  exact (List.dropWhile_sublist _).eq_of_length hlen

theorem trimEnd_eq_self {s : List Char} (h : trim s = s) : trimEnd s = s := by
  rwa [trim, trimStart_eq_self h] at h

theorem head_not_blank {c : Char} {s : List Char} (h : trim (c :: s) = c :: s) :
    isBlank c = false := by
  by_contra hb
  rw [Bool.not_eq_false] at hb
  have h1 := trimStart_eq_self h
  have h2 : trimStart s = c :: s := by rw [← h1, trimStart, trimStart, List.dropWhile_cons_of_pos hb]
  have h3 : (trimStart s).length ≤ s.length := (List.dropWhile_sublist _).length_le
  rw [h2] at h3
  simp at h3

theorem trimEnd_sublist (s : List Char) : (trimEnd s).Sublist s := by
  rw [trimEnd, ← List.reverse_sublist, List.reverse_reverse]
  exact List.dropWhile_sublist _

theorem trimEnd_append_blanks (s : List Char) {bs : List Char} (h : ∀ b ∈ bs, isBlank b = true) :
    trimEnd (s ++ bs) = trimEnd s := by
  rw [trimEnd, List.reverse_append, List.dropWhile_append_of_pos, trimEnd]
  exact fun b hb => h b (List.mem_reverse.1 hb)

theorem trim_of_ends {c d : Char} {s : List Char} (hc : isBlank c = false)
    (hd : isBlank d = false) : trim (c :: s ++ [d]) = c :: s ++ [d] := by
  rw [trim, List.cons_append, trimStart_cons_of_not_blank hc, ← List.cons_append,
    trimEnd_append_of_not_blank _ hd]

theorem trim_append_blanks {s bs : List Char} (hs : trim s = s) (hne : s ≠ [])
    (h : ∀ b ∈ bs, isBlank b = true) : trim (s ++ bs) = s := by
  obtain ⟨c, r, rfl⟩ := List.exists_cons_of_ne_nil hne
  rw [trim, List.cons_append, trimStart_cons_of_not_blank (head_not_blank hs), ← List.cons_append,
    trimEnd_append_blanks _ h, trimEnd_eq_self hs]

theorem trim_eq_self {s : List Char} (hhead : ∀ c ∈ s.head?, isBlank c = false)
    (hlast : ∀ d ∈ s.getLast?, isBlank d = false) : trim s = s := by
  cases s with
  | nil => rfl
  | cons c s =>
      have hs := List.dropLast_append_getLast (List.cons_ne_nil c s)
      have hd := hlast _ (List.getLast?_eq_getLast_of_ne_nil (List.cons_ne_nil c s))
      rw [trim, trimStart_cons_of_not_blank (hhead c rfl), ← hs, trimEnd_append_of_not_blank _ hd]

theorem head?_dropWhile_blank (s : List Char) :
    ∀ c ∈ (s.dropWhile isBlank).head?, isBlank c = false := by
  induction s with
  | nil => simp
  | cons b s ih =>
      by_cases hb : isBlank b = true
      · rw [List.dropWhile_cons_of_pos hb]
        exact ih
      · rw [List.dropWhile_cons_of_neg hb]
        rintro c ⟨⟩
        exact Bool.eq_false_iff.2 hb

/-- Trimming twice is trimming once. -/
@[simp] theorem trim_trim (s : List Char) : trim (trim s) = trim s := by
  apply trim_eq_self
  · intro c hc
    have hprefix : trim s <+: trimStart s := by
      rw [← List.reverse_suffix]
      rw [trim, trimEnd, List.reverse_reverse]
      exact List.dropWhile_suffix _
    obtain ⟨r, hr⟩ := hprefix
    have hne : trim s ≠ [] := by
      intro h
      rw [h] at hc
      cases hc
    apply head?_dropWhile_blank s c
    rw [← trimStart, ← hr, List.head?_append_of_ne_nil _ hne]
    exact hc
  · intro d hd
    rw [trim, trimEnd, List.getLast?_reverse] at hd
    exact head?_dropWhile_blank _ d hd

/-! ### Lines -/

theorem splitOn_lines (ls : List (List Char)) (h : ∀ l ∈ ls, '\n' ∉ l) :
    splitOn '\n' (ls.flatMap (· ++ ['\n'])) = ls ++ [[]] := by
  induction ls with
  | nil => rfl
  | cons l ls ih =>
      have hl : '\n' ∉ l := h l List.mem_cons_self
      have hrec := ih fun k hk => h k (List.mem_cons_of_mem l hk)
      rw [List.flatMap_cons, List.append_assoc, List.singleton_append, splitOn_append_cons hl,
        hrec, List.cons_append]

end Text

namespace Program

open Text

/-! ### The parts of a line -/

/-- The characters of a line without the line end. -/
def Line.body : Line → List Char
  | command code comment => pad commentColumn code.toList comment.toList
  | banner comment => parenthesised comment.toList
  | blank => []

@[simp] theorem Line.body_blank : Line.blank.body = [] := rfl

@[simp] theorem Line.body_banner (comment : String) :
    (Line.banner comment).body = parenthesised comment.toList := rfl

theorem Line.chars_eq (l : Line) : l.chars = l.body ++ ['\n'] := by
  cases l <;> rfl

/-- The lines of a program that was written are the lines that were written, and an empty one. -/
theorem linesOf_textOf {ls : List Line} (h : ∀ l ∈ ls, '\n' ∉ l.body) :
    linesOf (textOf ls) = ls.map Line.body ++ [[]] := by
  have hchars : ls.flatMap Line.chars = (ls.map Line.body).flatMap (· ++ ['\n']) := by
    rw [List.flatMap_map]
    exact congrArg ls.flatMap (funext Line.chars_eq)
  rw [linesOf, textOf, String.toList_ofList, hchars, splitOn_lines]
  intro b hb
  obtain ⟨l, hl, rfl⟩ := List.mem_map.1 hb
  exact h l hl

/-! ### A comment at the end -/

theorem exists_of_firstAnywhere {α : Type} {f : List Char → Option α} {s : List Char} {a : α}
    (h : firstAnywhere f s = some a) : ∃ t, f t = some a := by
  induction s with
  | nil => exact ⟨[], h⟩
  | cons c s ih =>
      rw [firstAnywhere, Option.orElse_eq_some] at h
      rcases h with h | ⟨-, h⟩
      · exact ⟨c :: s, h⟩
      · exact ih h

theorem exists_of_mem_allAlong {α : Type} {f : List Char → Option α} {s : List Char} {a : α}
    (h : a ∈ allAlong f s) : ∃ t, f t = some a := by
  induction s with
  | nil => exact ⟨[], Option.mem_toList.1 h⟩
  | cons c s ih =>
      rcases List.mem_append.1 h with h | h
      · exact ⟨c :: s, Option.mem_toList.1 h⟩
      · exact ih h

theorem firstAnywhere_append_of_none {α : Type} {f : List Char → Option α} {s t : List Char}
    (h : ∀ b ∈ s, ∀ r, f (b :: r) = none) : firstAnywhere f (s ++ t) = firstAnywhere f t := by
  induction s with
  | nil => rfl
  | cons b s ih =>
      rw [List.cons_append, firstAnywhere, h b List.mem_cons_self]
      exact ih fun k hk => h k (List.mem_cons_of_mem b hk)

theorem commentAt?_of_ne {b : Char} (h : b ≠ '(') (r : List Char) : commentAt? (b :: r) = none := by
  cases r <;> simp [commentAt?, h]

theorem commentAt?_parenthesised {a : Char} {d : List Char} (h : '\n' ∉ a :: d) :
    commentAt? (parenthesised (a :: d)) = some (a :: d) := by
  rw [List.mem_cons, not_or] at h
  have hline : (d ++ [')']).takeWhile (· != '\n') = d ++ [')'] := by
    rw [List.takeWhile_eq_self_iff]
    intro b hb
    rw [bne_iff_ne]
    rcases List.mem_append.1 hb with hb | hb
    · exact fun q => h.2 (q ▸ hb)
    · rw [List.mem_singleton.1 hb]
      decide
  have hclose : untilLastClosing (d ++ [')']) = some d := by
    simp [untilLastClosing]
  simp only [parenthesised, List.isEmpty_cons, Bool.false_eq_true, if_false, List.cons_append,
    commentAt?, Ne.symm h.1, hline, hclose, Option.map_some]

theorem opening_not_mem_append {s bs : List Char} (hs : '(' ∉ s)
    (hbs : ∀ b ∈ bs, isBlank b = true) : '(' ∉ s ++ bs := by
  intro hmem
  rcases List.mem_append.1 hmem with h | h
  · exact hs h
  · exact absurd (hbs _ h) (by decide)

section Parenthesised

variable {s d : List Char} (hs : '(' ∉ s)

include hs

/-- The command of a line is what stands before the first parenthesis. -/
theorem code_append_parenthesised (d : List Char) :
    code (s ++ parenthesised d) = upper (trim s) := by
  have hend : (parenthesised d).takeWhile (· != '(') = [] := by cases d <;> rfl
  have hlead : (s ++ parenthesised d).takeWhile (· != '(') = s := by
    rw [List.takeWhile_append_of_pos, hend, List.append_nil]
    intro b hb
    rw [bne_iff_ne]
    exact fun q => hs (q ▸ hb)
  rw [code, hlead]

/-- The comment at the end of a line comes back, whatever parentheses it holds. -/
theorem comment?_append_parenthesised (hd : '\n' ∉ d) :
    comment? (s ++ parenthesised d) = if (trim d).isEmpty then none else some (trim d) := by
  have hnone : ∀ b ∈ s, ∀ r, commentAt? (b :: r) = none := by
    intro b hb r
    exact commentAt?_of_ne (fun q => hs (q ▸ hb)) r
  rw [comment?, firstAnywhere_append_of_none hnone]
  cases d with
  | nil => rfl
  | cons a d =>
      have h := commentAt?_parenthesised hd
      rw [parenthesised] at *
      simp only [List.isEmpty_cons, Bool.false_eq_true, if_false, List.cons_append,
        firstAnywhere] at h ⊢
      rw [h]
      rfl

end Parenthesised

/-! ### A command and its comment -/

/-- A command text as it is written: trimmed, on one line, without a parenthesis. -/
structure IsCommand (c : List Char) : Prop where
  nonempty : c ≠ []
  trimmed : trim c = c
  noOpening : '(' ∉ c
  noNewline : '\n' ∉ c

section Pad

variable {c d : List Char} {column : Int} (hc : IsCommand c)

/-- The blanks between a command and its comment. -/
def gap (column : Int) (c : List Char) : List Char :=
  List.replicate (max (column - c.length) leastGap).toNat ' '

theorem blank_of_mem_gap {b : Char} (h : b ∈ gap column c) : isBlank b = true := by
  rw [List.eq_of_mem_replicate h]
  exact isBlank_space

include hc

theorem pad_eq : pad column c d = c ++ gap column c ++ parenthesised d := by
  rw [pad, trimEnd_eq_self hc.trimmed, gap]

theorem trim_pad : trim (pad column c d) = if d.isEmpty then c else pad column c d := by
  rw [pad_eq hc]
  cases d with
  | nil =>
      simp only [parenthesised, List.isEmpty_nil, if_true, List.append_nil]
      exact trim_append_blanks hc.trimmed hc.nonempty fun _ => blank_of_mem_gap
  | cons a d =>
      obtain ⟨k, r, rfl⟩ := List.exists_cons_of_ne_nil hc.nonempty
      have h := trim_of_ends (c := k) (d := ')') (s := r ++ gap column (k :: r) ++ '(' :: a :: d)
        (head_not_blank hc.trimmed) (by decide)
      simpa [parenthesised] using h

theorem isComment_trim_pad : isComment (trim (pad column c d)) = false := by
  obtain ⟨k, r, rfl⟩ := List.exists_cons_of_ne_nil hc.nonempty
  have hk : k ≠ '(' := fun h => hc.noOpening (h ▸ List.mem_cons_self)
  have hhead (s : List Char) : isComment (k :: s) = false := by simp [isComment, hk]
  rw [trim_pad hc, pad_eq hc]
  split
  · exact hhead r
  · exact hhead _

theorem trim_pad_ne_nil : trim (pad column c d) ≠ [] := by
  rw [trim_pad hc, pad_eq hc]
  split
  · exact hc.nonempty
  · simp [hc.nonempty]

theorem opening_not_mem_lead : '(' ∉ c ++ gap column c :=
  opening_not_mem_append hc.noOpening fun _ => blank_of_mem_gap

/-- The command of a line that was put together. -/
theorem code_trim_pad : code (trim (pad column c d)) = upper c := by
  rw [trim_pad hc]
  cases d with
  | nil =>
      have h := code_append_parenthesised hc.noOpening []
      rwa [hc.trimmed, parenthesised, List.isEmpty_nil, if_pos rfl, List.append_nil] at h
  | cons a d =>
      rw [List.isEmpty_cons, if_neg Bool.false_ne_true, pad_eq hc,
        code_append_parenthesised (opening_not_mem_lead hc),
        trim_append_blanks hc.trimmed hc.nonempty fun _ => blank_of_mem_gap]

/-- The comment of a line that was put together. -/
theorem comment?_trim_pad (hd : '\n' ∉ d) :
    comment? (trim (pad column c d)) = if (trim d).isEmpty then none else some (trim d) := by
  rw [trim_pad hc]
  cases d with
  | nil =>
      have h := comment?_append_parenthesised hc.noOpening hd
      rwa [parenthesised, List.isEmpty_nil, if_pos rfl, List.append_nil] at h
  | cons a d =>
      rw [List.isEmpty_cons, if_neg Bool.false_ne_true, pad_eq hc,
        comment?_append_parenthesised (opening_not_mem_lead hc) hd]

end Pad

end Program

end TouchProbe
