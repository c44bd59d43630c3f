import TouchProbe.Sequence.Step

/-! # Program lines

How one line of a program is written: numbers, and a command with its comment.

A number is written as short as it can be and read back: whole numbers below `10 ^ 21` without a
point.  The comment of a line is put in parentheses and starts in a fixed column, or two blanks
after a command that is too long for that.
-/

namespace TouchProbe.Program

def wordStyle : Number.Style := ⟨10 ^ 21, false, "NaN", "Infinity"⟩

def writeFloat (x : Float) : String := wordStyle.write x

/-- A value as it is written in a program; texts are read as numbers first. -/
def writeNumber (d : Datum) : Except Fault String := d.toFloat.map writeFloat

/-- A value as the comment of a line; one that does not count as true is no comment. -/
def commentOf (d : Datum) : String := if d.isTruthy then d.plain else ""

/-- The column in which comments start. -/
def commentColumn : Int := 40

/-- The least number of blanks between a command and its comment. -/
def leastGap : Int := 2

/-- A comment in parentheses; an empty comment is not written. -/
def parenthesised (comment : List Char) : List Char :=
  if comment.isEmpty then [] else '(' :: comment ++ [')']

/-- A command and its comment on one line, the comment in a given column. -/
def pad (column : Int) (command comment : List Char) : List Char :=
  let code := Text.trimEnd command
  code ++ List.replicate (max (column - code.length) leastGap).toNat ' ' ++ parenthesised comment

/-- The length beyond which there is no text. -/
def longest : Int := 2 ^ 63

/-- The column that a value means for the comment of a command of some length.  A float means one
only where the comment comes after the least gap. -/
def columnOf (d : Datum) (length : Nat) : Except Fault Int := do
  match ← d.toNumber with
  | .whole n => if n - length < longest then return n else throw .beyondLength
  | .real x => if x - Number.nearest false length 1 < Number.two then return 0 else throw .wrongKind

/-- A command and its comment on one line, the comment in the column that a value means.  The
command must be a text, and a comment that does not count as true is not written. -/
def padTo (column command comment : Datum) : Except Fault String := do
  let command := (← command.toText).toList
  let column ← columnOf column (Text.trimEnd command).length
  return String.ofList (pad column command (commentOf comment).toList)

inductive Line where
  | command (code comment : String)
  /-- A comment that has a line to itself. -/
  | banner (comment : String)
  | blank
  deriving DecidableEq, Repr

/-- The characters of a line, with the line end. -/
def Line.chars : Line → List Char
  | command code comment => pad commentColumn code.toList comment.toList ++ ['\n']
  | banner comment => parenthesised comment.toList ++ ['\n']
  | blank => ['\n']

def textOf (lines : List Line) : String := String.ofList (lines.flatMap Line.chars)

end TouchProbe.Program
