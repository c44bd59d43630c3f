import TouchProbe.Yaml.QuotedScalar

/-! # Plain scalars

Scalars without marks around them.  They end at a comment, at the colon after a key, at the marks
of a collection in brackets, and at a line that is not indented enough.
-/

namespace TouchProbe.Yaml

/-- Whether a character is one of the marks that end plain scalars inside brackets. -/
def isFlowMark (c : Char) : Bool :=
  c = ',' || c = '[' || c = ']' || c.toNat = 0x7B || c.toNat = 0x7D

def endsPlain (inFlow : Bool) (s : List Char) : Bool :=
  match s with
  | ':' :: r => atGap r || (inFlow && r.head?.any isFlowMark)
  | c :: _ => atGap s || (inFlow && (isFlowMark c || c = '?'))
  | [] => true

/-- A run of a plain scalar without blanks, and the cursor after it. -/
def plainRun (inFlow : Bool) (spot : Spot) : List Char → List Char × Cursor
  | [] => ([], ⟨spot, []⟩)
  | c :: s =>
    if endsPlain inFlow (c :: s) then ([], ⟨spot, c :: s⟩)
    else
      let r := plainRun inFlow (spot.after c) s
      (c :: r.1, r.2)

/-- The line ends of empty lines between the lines of a plain scalar, with the cursor after
them; `none` at a mark between documents. -/
def plainEmptyLines (fuel : Nat) (c : Cursor) : Option (List Char) × Cursor :=
  match fuel with
  | 0 => (some [], c)
  | fuel + 1 =>
    if atDocumentMark c.rest then (none, c)
    else
      let c := c.skipSpaces
      match c.rest with
      | x :: _ =>
        if isBreak x then
          let (breaks, c) := plainEmptyLines fuel c.next
          (breaks.map (breakText x :: ·), c)
        else (some [], c)
      | [] => (some [], c)

/-- What stands between two runs of a plain scalar. -/
structure PlainGap where
  /-- The text that it stands for, if the scalar may go on after it. -/
  text : Option (List Char)
  /-- Whether a line ended there. -/
  newLine : Bool
  after : Cursor

def plainGap (c : Cursor) : PlainGap :=
  let (spaces, c) := c.span (· = ' ')
  match c.rest with
  | x :: _ =>
    if isBreak x then
      let (breaks, after) := plainEmptyLines (c.rest.length + 1) c.next
      ⟨breaks.map (folded x), true, after⟩
    else ⟨if spaces.isEmpty then none else some spaces, false, c⟩
  | [] => ⟨if spaces.isEmpty then none else some spaces, false, c⟩

/-- The text of a plain scalar, whether its last gap began a new line, and the cursor after it.
`indent` is the least column for its lines outside brackets. -/
def plainFrom (fuel : Nat) (inFlow : Bool) (indent : Int) (between : List Char) (newLine : Bool)
    (c : Cursor) : List Char × Bool × Cursor :=
  match fuel with
  | 0 => ([], newLine, c)
  | fuel + 1 =>
    if c.sees '#' then ([], newLine, c)
    else
      let (run, c) := plainRun inFlow c.spot c.rest
      if run.isEmpty then ([], newLine, c)
      else
        let gap := plainGap c
        match gap.text with
        | none => (between ++ run, gap.newLine, gap.after)
        | some text =>
          if gap.after.sees '#' || (!inFlow && (gap.after.column : Int) < indent) then
            (between ++ run, gap.newLine, gap.after)
          else
            let (more, newLine, c) := plainFrom fuel inFlow indent text gap.newLine gap.after
            (between ++ run ++ more, newLine, c)

end TouchProbe.Yaml
