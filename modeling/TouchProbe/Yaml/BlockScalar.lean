import TouchProbe.Yaml.Name

/-! # Block scalars

Scalars that are written as indented lines under a mark: `|` keeps their line ends, `>` folds
them.  After the mark may stand how the line ends at the end are treated, and how far the lines
are indented.
-/

namespace TouchProbe.Yaml

/-- How the line ends at the end of a block scalar are treated. -/
inductive Ending where
  | clip
  | strip
  | keep
  deriving DecidableEq, Repr

/-- The sign of an ending, if there is one, and the cursor after it. -/
def endingSign (c : Cursor) : Ending × Cursor :=
  match c.rest with
  | '+' :: _ => (.keep, c.next)
  | '-' :: _ => (.strip, c.next)
  | _ => (.clip, c)

def indentDigit (c : Cursor) : Reads (Option Nat × Cursor) :=
  match c.rest with
  | d :: _ =>
    if d = '0' then .error .illFormed
    else if d.isDigit then .ok (some (d.toNat - 48), c.next)
    else .ok (none, c)
  | [] => .ok (none, c)

/-- The signs after the mark, in either order. -/
def blockHead (c : Cursor) : Reads (Ending × Option Nat × Cursor) := do
  let (ending, c) := endingSign c
  let (indent, c) ← indentDigit c
  let (ending, c) := if ending = .clip && indent.isSome then endingSign c else (ending, c)
  if !atSpace c.rest then throw .illFormed
  return (ending, indent, c)

/-- The cursor after spaces, but not beyond a column. -/
def skipToColumn (column : Nat) (c : Cursor) : Cursor :=
  let spaces := (c.span (· = ' ')).1.length
  c.skip (min spaces (column - c.column))

/-- The line ends of the empty lines at the cursor, the greatest indentation among them, and the
cursor after them. -/
def measureIndent (fuel : Nat) (deepest : Nat) (c : Cursor) : List Char × Nat × Cursor :=
  match fuel with
  | 0 => ([], deepest, c)
  | fuel + 1 =>
    let c := c.skipSpaces
    let deepest := max deepest c.column
    match c.rest with
    | x :: _ =>
      if isBreak x then
        let (breaks, deepest, c) := measureIndent fuel deepest c.next
        (breakText x :: breaks, deepest, c)
      else ([], deepest, c)
    | [] => ([], deepest, c)

/-- The line ends of the empty lines at the cursor, and the cursor in the column of the text. -/
def blockBreaks (fuel : Nat) (indent : Nat) (c : Cursor) : List Char × Cursor :=
  match fuel with
  | 0 => ([], c)
  | fuel + 1 =>
    let c := skipToColumn indent c
    match c.rest with
    | x :: _ =>
      if isBreak x then
        let (breaks, c) := blockBreaks fuel indent c.next
        (breakText x :: breaks, c)
      else ([], c)
    | [] => ([], c)

def startsBlank (s : List Char) : Bool := s.head?.any fun x => x = ' ' || x = '\t'

/-- The lines of a block scalar, the line end of the last of them, the line ends after it, and
the cursor after them. -/
def blockLines (fuel : Nat) (isFolded : Bool) (indent : Nat) (breaks : List Char) (c : Cursor) :
    List Char × List Char × List Char × Cursor :=
  match fuel with
  | 0 => ([], [], breaks, c)
  | fuel + 1 =>
    if c.column != indent || c.rest.isEmpty then ([], [], breaks, c)
    else
      let opensBlank := startsBlank c.rest
      let (line, c) := c.span fun x => !isBreak x
      let lineBreak := (c.rest.take 1).map breakText
      let (after, c) := blockBreaks (c.rest.length + 1) indent c.skipBreak
      if c.column = indent && !c.rest.isEmpty then
        let joined :=
          if isFolded && lineBreak = ['\n'] && !opensBlank && !startsBlank c.rest then
            (if after.isEmpty then [' '] else [])
          else lineBreak
        let (more, last, tail, c) := blockLines fuel isFolded indent after c
        (breaks ++ line ++ joined ++ more, last, tail, c)
      else (breaks ++ line, lineBreak, after, c)

/-- A block scalar, at its mark.  `indent` is the indentation of the collection around it. -/
def blockScalar (isFolded : Bool) (indent : Int) (c : Cursor) : Reads (Token × Cursor) := do
  let (ending, increment, c) ← blockHead c.next
  let c ← finishLine c
  let least := max 1 (indent + 1).toNat
  let (breaks, indent, c) := match increment with
    | none =>
      let (breaks, deepest, c) := measureIndent (c.rest.length + 1) 0 c
      (breaks, max least deepest, c)
    | some n =>
      let indent := least + n - 1
      let (breaks, c) := blockBreaks (c.rest.length + 1) indent c
      (breaks, indent, c)
  let (text, last, tail, c) := blockLines (c.rest.length + 1) isFolded indent breaks c
  let ended := match ending with
    | .strip => text
    | .clip => text ++ last
    | .keep => text ++ last ++ tail
  return (.scalar (String.ofList ended) false, c)

end TouchProbe.Yaml
