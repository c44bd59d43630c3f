import TouchProbe.Text.Blank
import TouchProbe.Text.Digits

/-! # Patterns

Recognisers of what stands at the front of a text, and three ways to look for them further on:
`anywhere`, `laterOnLine`, which does not look past a line end, and `firstAnywhere`, which keeps
what was found.

A recogniser gives the text that follows what it recognised.
-/

namespace TouchProbe.Text

/-- What a recogniser says of a text: the text that follows, if it recognises its front. -/
abbrev Pattern := List Char → Option (List Char)

/-- Whether a test holds of a text or of what follows one of its characters. -/
def anywhere (p : List Char → Bool) : List Char → Bool
  | [] => p []
  | c :: s => p (c :: s) || anywhere p s

/-- The same, up to the end of the line. -/
def laterOnLine (p : List Char → Bool) : List Char → Bool
  | [] => p []
  | c :: s => p (c :: s) || (c != '\n' && laterOnLine p s)

/-- The first result of a search along a text. -/
def firstAnywhere {α : Type} (f : List Char → Option α) : List Char → Option α
  | [] => f []
  | c :: s => f (c :: s) <|> firstAnywhere f s

/-- All results of a search along a text, in order. -/
def allAlong {α : Type} (f : List Char → Option α) : List Char → List α
  | [] => (f []).toList
  | c :: s => (f (c :: s)).toList ++ allAlong f s

def literal (w : List Char) : Pattern := fun s => w.isPrefixOf? s

/-- Whether a text does not begin with a digit. -/
def noDigit : List Char → Bool
  | c :: _ => !isDigit c
  | [] => true

/-- Whether a text goes on neither with a digit nor with a point. -/
def numberEnds : List Char → Bool
  | c :: _ => !isDigit c && c != '.'
  | [] => true

theorem literal_nil (s : List Char) : literal [] s = some s := by cases s <;> rfl

theorem literal_cons_nil (c : Char) (w : List Char) : literal (c :: w) [] = none := rfl

theorem literal_cons (c d : Char) (w s : List Char) :
    literal (c :: w) (d :: s) = if c == d then literal w s else none := rfl

theorem literal_eq_some_iff {w s r : List Char} : literal w s = some r ↔ w ++ r = s := by
  induction w generalizing s with
  | nil => simp [literal_nil, eq_comm]
  | cons c w ih =>
    cases s with
    | nil => simp [literal_cons_nil]
    | cons d s => by_cases h : c = d <;> simp [literal_cons, h, ih]

end TouchProbe.Text
