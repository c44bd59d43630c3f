import TouchProbe.Datum
import TouchProbe.Yaml.Implicit
import TouchProbe.Yaml.Cursor

/-! # Writing YAML

A data tree as a YAML text.  Collections are written without brackets, two columns further right
than the one around them, save for a list in a mapping, whose dashes stand in the column of the
keys.  Empty collections are a pair of brackets.

A text is written plain where it would be read back as the same text.  Otherwise it is put
between single quotes, or between double quotes if it has characters that must be escaped.  Texts
are broken at spaces once a line is longer than 80 columns.
-/

namespace TouchProbe.Yaml

/-- The width after which lines are broken. -/
def widest : Nat := 80

def indentWidth : Nat := 2

structure Page where
  /-- The characters, the last one first. -/
  chars : List Char := []
  column : Nat := 0
  /-- Whether a blank or a line end stands before the place. -/
  blank : Bool := true
  /-- Whether only indentation and marks of collections stand on the line. -/
  fresh : Bool := true

namespace Page

def put (p : Page) (cs : List Char) : Page :=
  { p with chars := cs.reverse ++ p.chars, column := p.column + cs.length }

def newLine (p : Page) (mark : Char) : Page := ⟨mark :: p.chars, 0, true, true⟩

/-- The page at an indentation, on a new line unless it is on a fresh one. -/
def indentTo (p : Page) (indent : Nat) : Page :=
  let p :=
    if !p.fresh || indent < p.column || (p.column == indent && !p.blank) then p.newLine '\n' else p
  if p.column < indent then
    { p.put (List.replicate (indent - p.column) ' ') with blank := true }
  else p

def mark (p : Page) (m : String) (needsBlank : Bool) (leavesBlank leavesFresh : Bool) : Page :=
  let m := m.toList
  { p.put (if p.blank || !needsBlank then m else ' ' :: m) with
    blank := leavesBlank, fresh := p.fresh && leavesFresh }

def collectionMark (p : Page) (m : String) : Page := p.mark m true false true

def itemMark (p : Page) (indent : Nat) : Page := (p.indentTo indent).collectionMark "-"

def inside (p : Page) : Page := { p with blank := false, fresh := false }

end Page

/-! ### How a text may be written -/

/-- How a text may be written. -/
structure Looks where
  /-- Whether it holds line ends. -/
  manyLines : Bool
  plain : Bool
  singleQuoted : Bool

def isSpecial (c : Char) : Bool :=
  (Text.half? c).isSome || !(c = '\n' || (' ' ≤ c && c ≤ '~')) &&
    !((c = '\x85' || 0xA0 ≤ c.toNat) && c.toNat < 0x10FFFF && isAllowed c && c != byteOrderMark)

/-- Whether a character at the start of a text is taken for a mark. -/
def marksStart (c : Char) (rest : List Char) : Bool :=
  "#,[]&*!|>'\"%@".toList.contains c || c.toNat = 0x60 || c.toNat = 0x7B || c.toNat = 0x7D ||
    ((c = '?' || c = ':' || c = '-') && atGap rest)

/-- Whether a text has a mark inside: a colon before a gap, or a comment sign after one. -/
def marksInside : List Char → Bool
  | a :: b :: rest =>
    (b = ':' && atGap rest) || (b = '#' && atGap [a]) || marksInside (b :: rest)
  | _ => false

/-- Whether a text holds two characters of given kinds in a row. -/
def hasPair (p q : Char → Bool) : List Char → Bool
  | a :: b :: rest => (p a && q b) || hasPair p q (b :: rest)
  | _ => false

def looksOf (s : List Char) : Looks :=
  let isSpace (c : Char) : Bool := c = ' '
  let isEdge (c : Char) : Bool := c = ' ' || isBreak c
  let manyLines := s.any isBreak
  let documentMark := s.take 3 == ['-', '-', '-'] || s.take 3 == ['.', '.', '.']
  let marked := documentMark || marksInside s ||
    match s with
    | c :: rest => marksStart c rest
    | [] => false
  let hard := hasPair isSpace isBreak s || s.any isSpecial
  let indented := hasPair isBreak isSpace s
  { manyLines
    plain := !hard && !indented && !manyLines && !marked && !s.head?.any isEdge &&
      !s.getLast?.any isEdge
    singleQuoted := !hard && !indented }

/-! ### Scalars -/

/-- The parts of a text: runs of spaces, of line ends, and of anything else. -/
def runsOf (s : List Char) : List (List Char) :=
  let kind (c : Char) : Nat := if c = ' ' then 0 else if isBreak c then 1 else 2
  s.splitBy fun a b => kind a == kind b

/-- The page with a run of spaces, or on a new line if it is a single one beyond the width. -/
def putSpaces (p : Page) (indent : Nat) (mayBreak : Bool) (run : List Char) : Page :=
  if mayBreak && run.length == 1 && widest < p.column then (p.indentTo indent).inside
  else p.put run

def putPlain (p : Page) (indent : Nat) (mayBreak : Bool) (s : List Char) : Page :=
  let p := if p.blank then p else p.put [' ']
  (runsOf s).foldl
    (fun p run => if run.head? = some ' ' then putSpaces p indent mayBreak run else p.put run)
    p.inside

/-- The page with a run of line ends.  One more newline is written, because the first one alone
would be read as a space. -/
def putBreaks (p : Page) (indent : Nat) (run : List Char) : Page :=
  let p := if run.head? = some '\n' then p.newLine '\n' else p
  (run.foldl Page.newLine p).indentTo indent

/-- The page with the runs of a text between single quotes; spaces at its ends are not broken. -/
def putRuns (p : Page) (indent : Nat) (mayBreak isFirst : Bool) : List (List Char) → Page
  | [] => p
  | run :: rest =>
    let p :=
      match run.head? with
      | some c =>
        if c = ' ' then putSpaces p indent (mayBreak && !isFirst && !rest.isEmpty) run
        else if isBreak c then putBreaks p indent run
        else p.put (run.flatMap fun c => if c = '\'' then ['\'', '\''] else [c])
      | none => p
    putRuns p indent mayBreak false rest

def putSingle (p : Page) (indent : Nat) (mayBreak : Bool) (s : List Char) : Page :=
  (putRuns (p.mark "'" true false false) indent mayBreak true (runsOf s)).mark "'" false false false

def escapeLetters : List (Nat × Char) := [
  (0, '0'), (7, 'a'), (8, 'b'), (9, 't'), (10, 'n'), (11, 'v'), (12, 'f'), (13, 'r'), (27, 'e'),
  (34, '"'), (92, '\\'), (0x85, 'N'), (0xA0, '_'), (0x2028, 'L'), (0x2029, 'P')]

def isEscaped (c : Char) : Bool :=
  c = '"' || c = '\\' || c = '\x85' || c = '\u2028' || c = '\u2029' || c = byteOrderMark ||
    !((' ' ≤ c && c ≤ '~') || (0xA0 ≤ c.toNat && c.toNat < 0x10000 && isAllowed c))

def codeDigits (width n : Nat) : List Char := (Text.hexDigits width n).map Char.toUpper

def escapeOf (c : Char) : List Char :=
  let n := Text.codeOf c
  match escapeLetters.lookup n with
  | some letter => ['\\', letter]
  | none =>
    if n < 0x100 then '\\' :: 'x' :: codeDigits 2 n
    else if n < 0x10000 then '\\' :: 'u' :: codeDigits 4 n
    else '\\' :: 'U' :: codeDigits 8 n

/-- The page on a new line inside a text between double quotes; a space that begins the line has
a backslash before it. -/
def breakDouble (p : Page) (indent : Nat) (next : Option Char) : Page :=
  let p := ((p.put ['\\']).indentTo indent).inside
  if next = some ' ' then p.put ['\\'] else p

/-- The page with a text between double quotes from some place in it.  `held` holds the
characters that are not written yet, last one first, and `isStart` tells that none came before. -/
def putDoubleFrom (p : Page) (indent : Nat) (mayBreak isStart : Bool) (held : List Char) :
    List Char → Page
  | [] => p.put held.reverse
  | c :: rest =>
    let inner := mayBreak && !isStart && !rest.isEmpty
    if isEscaped c then
      let p := (p.put held.reverse).put (escapeOf c)
      let p := if inner && widest + 1 < p.column then breakDouble p indent rest.head? else p
      putDoubleFrom p indent mayBreak false [] rest
    else if inner && (c = ' ' || held.isEmpty) && widest < p.column + held.length then
      putDoubleFrom (breakDouble (p.put held.reverse) indent (some c)) indent mayBreak false [c] rest
    else putDoubleFrom p indent mayBreak false (c :: held) rest

def putDouble (p : Page) (indent : Nat) (mayBreak : Bool) (s : List Char) : Page :=
  (putDoubleFrom (p.mark "\"" true false false) indent mayBreak true [] s).mark "\"" false false
    false

/-- A scalar as it is written: its text, and whether it may stand plain. -/
structure Written where
  text : List Char
  mayBePlain : Bool
  /-- The length of the name of its kind, with the two marks before it. -/
  kindLength : Nat

/-- A float as it is written: with a point before a power of ten. -/
def floatText (x : Float) : List Char :=
  (Number.Style.write ⟨0, true, ".nan", ".inf"⟩ x).toList

def writtenScalar : Scalar → Written
  | .null => ⟨"null".toList, true, 6⟩
  | .bool b => ⟨(if b then "true" else "false").toList, true, 6⟩
  | .int n => ⟨(toString n).toList, true, 5⟩
  | .float x => ⟨floatText x, true, 7⟩
  | .text s => ⟨s.toList, plainTag s.toList == standardTag "str", 5⟩

/-- The scalar that a value is written as, if it is no collection. -/
def written? : Datum → Option Written
  | .scalar s => some (writtenScalar s)
  | .date d => some ⟨d.text.toList, true, 11⟩
  | .moment m => some ⟨(m.text " ").toList, true, 11⟩
  | .bytes bs => some (writtenScalar (.text (Datum.bytesShown bs)))
  | .list _ | .pair _ _ | .set _ | .mapping _ | .loop _ _ => none

def isPlain (isKey : Bool) (w : Written) : Bool :=
  w.mayBePlain && !(isKey && w.text.isEmpty) && (w.text.isEmpty || (looksOf w.text).plain)

def putScalar (p : Page) (indent : Nat) (isKey : Bool) (w : Written) : Page :=
  let looks := looksOf w.text
  if isPlain isKey w then putPlain p indent (!isKey) w.text
  else if looks.singleQuoted && !(isKey && looks.manyLines) then putSingle p indent (!isKey) w.text
  else putDouble p indent (!isKey) w.text

/-! ### Collections -/

def longestSimpleKey : Nat := 128

def isSimpleKey (w : Written) : Bool :=
  w.kindLength + w.text.length < longestSimpleKey && !w.text.isEmpty && !w.text.any isBreak

def scalarIndent (indent : Option Nat) : Nat := indent.elim indentWidth (· + indentWidth)

def innerIndent (indent : Option Nat) : Nat := indent.elim 0 (· + indentWidth)

mutual

def putNode (indent : Option Nat) (inMapping : Bool) (p : Page) : Datum → Page
  | .scalar s => putScalar p (scalarIndent indent) false (writtenScalar s)
  | .date d => putScalar p (scalarIndent indent) false ⟨d.text.toList, true, 11⟩
  | .moment m => putScalar p (scalarIndent indent) false ⟨(m.text " ").toList, true, 11⟩
  | .bytes bs =>
    putScalar p (scalarIndent indent) false (writtenScalar (.text (Datum.bytesShown bs)))
  | .list xs | .set xs =>
    if xs.isEmpty then p.mark "[]" true false false
    else putItems (if inMapping && !p.fresh then indent.getD 0 else innerIndent indent) p xs
  | .pair a b =>
    let inner := innerIndent indent
    let p := putNode (some inner) false (p.itemMark inner) a
    putNode (some inner) false (p.itemMark inner) b
  | .mapping entries =>
    if entries.isEmpty then p.mark "\x7b\x7d" true false false
    else putEntries (innerIndent indent) p entries
  | .loop _ d => putNode indent inMapping p d

def putItems (indent : Nat) (p : Page) : List Datum → Page
  | [] => p
  | x :: rest =>
    putItems indent (putNode (some indent) false (p.itemMark indent) x) rest

def putEntries (indent : Nat) (p : Page) : List (Datum × Datum) → Page
  | [] => p
  | (k, v) :: rest =>
    let p := p.indentTo indent
    let p :=
      match (written? k).filter isSimpleKey with
      | some w => (putScalar p (scalarIndent (some indent)) true w).mark ":" false false false
      | none =>
        ((putNode (some indent) true (p.collectionMark "?") k).indentTo indent).collectionMark ":"
    putEntries indent (putNode (some indent) true p v) rest

end

def isPlainRoot (d : Datum) : Bool := (written? d).any (isPlain false)

/-- The text of a value.  The end of the document is marked after a plain scalar, which might
otherwise go on. -/
def write (d : Datum) : String :=
  let p := (putNode none false {} d).indentTo 0
  let p := if isPlainRoot d then (p.mark "..." true false false).indentTo 0 else p
  String.ofList p.chars.reverse

end TouchProbe.Yaml
