import TouchProbe.Text.Utf8

/-! # Places in a YAML text

A cursor is what is left of a text together with the place that is left it at: how many
characters and lines came before, and in which column it stands.  A text is given with every
line end written as one newline; the line ends of Unicode are left in it and end lines too.
-/

namespace TouchProbe.Yaml

def isBreak (c : Char) : Bool := c = '\n' || c = '\x85' || c = '\u2028' || c = '\u2029'

/-- Whether a text is at its end or begins with a line end. -/
def atLineEnd : List Char → Bool
  | [] => true
  | c :: _ => isBreak c

/-- Whether a text is at its end or begins with a space or a line end. -/
def atSpace : List Char → Bool
  | [] => true
  | c :: _ => c = ' ' || isBreak c

/-- Whether a text is at its end or begins with a space, a tab or a line end. -/
def atGap : List Char → Bool
  | [] => true
  | c :: _ => c = ' ' || c = '\t' || isBreak c

/-- Whether a text begins with one of the marks between documents. -/
def atDocumentMark : List Char → Bool
  | '-' :: '-' :: '-' :: s | '.' :: '.' :: '.' :: s => atGap s
  | _ => false

/-- What a line end stands for: the line ends of Unicode for themselves, all others for a
newline. -/
def breakText (c : Char) : Char := if c = '\u2028' || c = '\u2029' then c else '\n'

/-- The character that may open a text to tell its encoding. -/
def byteOrderMark : Char := '\ufeff'

def isAllowed (c : Char) : Bool :=
  let n := c.toNat
  n == 9 || n == 10 || n == 13 || (0x20 ≤ n && n ≤ 0x7E) || n == 0x85 ||
    (0xA0 ≤ n && n ≤ 0xD7FF) || (0xE000 ≤ n && n ≤ 0xFFFD) || 0x10000 ≤ n

structure Spot where
  index : Nat := 0
  line : Nat := 0
  column : Nat := 0
  deriving DecidableEq, Repr

def Spot.after (p : Spot) (c : Char) : Spot :=
  if isBreak c then ⟨p.index + 1, p.line + 1, 0⟩
  else if c = byteOrderMark then { p with index := p.index + 1 }
  else ⟨p.index + 1, p.line, p.column + 1⟩

/-- What is left of a text, and where. -/
structure Cursor where
  spot : Spot
  rest : List Char

namespace Cursor

def peek? (c : Cursor) : Option Char := c.rest.head?

/-- Whether the next character is the given one. -/
def sees (c : Cursor) (x : Char) : Bool := c.rest.head? = some x

def next (c : Cursor) : Cursor :=
  match c.rest with
  | [] => c
  | x :: r => ⟨c.spot.after x, r⟩

def skip (c : Cursor) : Nat → Cursor
  | 0 => c
  | n + 1 => c.next.skip n

/-- The characters that pass a test, and the cursor after them. -/
def spanFrom (p : Char → Bool) (spot : Spot) : List Char → List Char × Cursor
  | [] => ([], ⟨spot, []⟩)
  | x :: r =>
    if p x then
      let s := spanFrom p (spot.after x) r
      (x :: s.1, s.2)
    else ([], ⟨spot, x :: r⟩)

def span (p : Char → Bool) (c : Cursor) : List Char × Cursor := spanFrom p c.spot c.rest

def skipWhile (p : Char → Bool) (c : Cursor) : Cursor := (c.span p).2

def skipSpaces (c : Cursor) : Cursor := c.skipWhile (· = ' ')

def toLineEnd (c : Cursor) : Cursor := c.skipWhile fun x => !isBreak x

/-- The cursor after a line end, if there is one. -/
def skipBreak (c : Cursor) : Cursor := if c.rest.head?.any isBreak then c.next else c

def column (c : Cursor) : Nat := c.spot.column

end Cursor

end TouchProbe.Yaml
