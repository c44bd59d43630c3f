/-! # Lone halves

A character beyond the sixteen-bit codes can be written by two codes, its halves.  A text may be
given with one half and without the other.  Such a lone half is no character, so a character of
an area that no character was ever put in stands for it: `ofHalf` gives that character and
`half?` the code of the half.
-/

namespace TouchProbe.Text

def isHalf (n : Nat) : Bool := 0xD800 ≤ n && n < 0xE000

/-- What the code of the character for a half has more than that of the half. -/
def halfShift : Nat := 0xE1800

def ofHalf (n : Nat) : Char := Char.ofNat (n + halfShift)

/-- The code of the half that a character stands for. -/
def half? (c : Char) : Option Nat :=
  let n := c.toNat - halfShift
  if halfShift ≤ c.toNat && isHalf n then some n else none

/-- The character of a code, which may be that of a half. -/
def ofCode (n : Nat) : Char := if isHalf n then ofHalf n else Char.ofNat n

/-- The code of a character or of the half that it stands for. -/
def codeOf (c : Char) : Nat := (half? c).getD c.toNat

def hasHalf (s : List Char) : Bool := s.any fun c => (half? c).isSome

/-- A text with what holds the place of something unreadable for every lone half: as often as
there would be bytes in it. -/
def withoutHalves (s : List Char) : List Char :=
  s.flatMap fun c => if (half? c).isSome then List.replicate 3 '\ufffd' else [c]

end TouchProbe.Text
