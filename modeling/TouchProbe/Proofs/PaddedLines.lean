import TouchProbe.Proofs.Relaid
import TouchProbe.Proofs.Reread

/-!
A command and a comment that are put on one line come back from it.  Neither has to be trimmed: the
blanks at the ends of a command are lost when the line is read, and the comment may hold any
parentheses, since the command has none and the last one that closes is that of the line.
-/

namespace TouchProbe

namespace Text

/-- A text is trimmed at its end by taking blanks off. -/
theorem exists_blanks_of_trimEnd (s : List Char) :
    ∃ bs, (∀ b ∈ bs, isBlank b = true) ∧ s = trimEnd s ++ bs := by
  refine ⟨(s.reverse.takeWhile isBlank).reverse, fun b hb => ?_, ?_⟩
  · exact List.mem_takeWhile_imp (List.mem_reverse.1 hb)
  · rw [trimEnd, ← List.reverse_append, List.takeWhile_append_dropWhile, List.reverse_reverse]

theorem trim_trimEnd_append {bs : List Char} (h : ∀ b ∈ bs, isBlank b = true) (s : List Char) :
    trim (trimEnd s ++ bs) = trim s := by
  obtain ⟨cut, hcut, hs⟩ := exists_blanks_of_trimEnd s
  have hnone : ∀ b ∈ ([] : List Char), isBlank b = true := by simp
  calc trim (trimEnd s ++ bs) = trim (trimEnd s) := trim_padded hnone h (trimEnd s)
    _ = trim (trimEnd s ++ cut) := (trim_padded hnone hcut (trimEnd s)).symm
    _ = trim s := by rw [← hs]

end Text

namespace Program

open Text

/-- The number of blanks between a command of some length and its comment. -/
def gapLength (column : Int) (length : Nat) : Nat := (max (column - length) leastGap).toNat

theorem two_le_gapLength (column : Int) (length : Nat) : 2 ≤ gapLength column length := by
  rw [gapLength, leastGap]
  omega

/-- The comment starts in its column, or after the least gap. -/
theorem length_add_gapLength (column : Int) (length : Nat) :
    ((length + gapLength column length : Nat) : Int) = max column (length + 2) := by
  rw [gapLength, leastGap]
  omega

theorem columnOf_int (column : Int) (length : Nat) :
    columnOf (.int column) length =
      if column - length < longest then .ok column else .error .beyondLength := rfl

/-- A command and a comment that are texts are put on one line, unless it is longer than a text can
be. -/
theorem padTo_texts (column : Int) (c d : String) :
    padTo (.int column) (.text c) (.text d) =
      if column - (trimEnd c.toList).length < longest then
        .ok (String.ofList (pad column c.toList d.toList))
      else .error .beyondLength := by
  have hcommand : (Datum.text c).toText = .ok c := rfl
  rw [padTo, hcommand, commentOf_text]
  change (columnOf (.int column) (trimEnd c.toList).length >>= fun column =>
    pure (String.ofList (pad column c.toList d.toList))) = _
  rw [columnOf_int]
  split <;> rfl

/-- A line that a command and a comment were put on gives both back.  Between them are at least two
blanks, and the comment starts in its column, or two blanks after a command that is too long for
that. -/
theorem pad_comes_apart {c d : String} (hopening : '(' ∉ c.toList) (hline : '\n' ∉ d.toList)
    (column : Int) :
    let line := pad column c.toList d.toList
    code line = upper (trim c.toList) ∧
      comment? line = (if (trim d.toList).isEmpty then none else some (trim d.toList)) ∧
      (∃ blanks : Nat, 2 ≤ blanks ∧
        line = trimEnd c.toList ++ List.replicate blanks ' ' ++ parenthesised d.toList ∧
        (((trimEnd c.toList).length + blanks : Nat) : Int) =
          max column ((trimEnd c.toList).length + 2)) ∧
      padTo (.int column) (.text c) (.text d) =
        if column - (trimEnd c.toList).length < longest then .ok (String.ofList line)
        else .error .beyondLength := by
  intro line
  have hend : '(' ∉ trimEnd c.toList := fun h => hopening ((trimEnd_sublist _).subset h)
  have hlead : '(' ∉ trimEnd c.toList ++ gap column (trimEnd c.toList) :=
    opening_not_mem_append hend fun _ => blank_of_mem_gap
  have hcode : code line = upper (trim c.toList) := by
    rw [← trim_trimEnd_append (fun _ => blank_of_mem_gap) c.toList]
    exact code_append_parenthesised hlead d.toList
  have hcomment := comment?_append_parenthesised hlead hline
  refine ⟨hcode, hcomment, ⟨gapLength column (trimEnd c.toList).length, ?_, rfl, ?_⟩, ?_⟩
  · exact two_le_gapLength _ _
  · exact length_add_gapLength _ _
  · exact padTo_texts column c d

/-- A comment with parentheses of its own, after a command with blanks and a parenthesis that
closes. -/
theorem pad_comes_apart_parentheses :
    '(' ∉ " g0 x5) ".toList ∧ '\n' ∉ " over (the edge".toList ∧
      code (pad 3 " g0 x5) ".toList " over (the edge".toList) = "G0 X5)".toList ∧
      comment? (pad 3 " g0 x5) ".toList " over (the edge".toList) = some "over (the edge".toList ∧
      padTo (.int 3) (.text " g0 x5) ") (.text " over (the edge") =
        .ok " g0 x5)  ( over (the edge)" := by
  have hopening : '(' ∉ " g0 x5) ".toList := by decide
  have hline : '\n' ∉ " over (the edge".toList := by decide
  obtain ⟨hcode, hcomment, -, hpadded⟩ := pad_comes_apart hopening hline 3
  refine ⟨hopening, hline, ?_, ?_, ?_⟩
  · rw [hcode]
    decide +kernel
  · rw [hcomment]
    decide +kernel
  · have hshort : 3 - ((trimEnd " g0 x5) ".toList).length : Int) < longest := by decide +kernel
    rw [hpadded, if_pos hshort]
    exact congrArg Except.ok (by decide +kernel)

end Program

end TouchProbe
