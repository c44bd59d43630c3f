import TouchProbe.Yaml.BlockScalar
import TouchProbe.Yaml.PlainScalar
import TouchProbe.Yaml.Supply

/-! # The tokens of a text

Tokens are read off a text from left to right.  A key is known as such only when its colon is
read, so every token that might open a key is remembered with the number of tokens before it, and
the token for the key is put there later.  Such a key must stand on one line and be no longer
than 1024 characters.

Outside brackets a collection begins where the column grows beyond that of the collection around
it, and ends where a line begins further left.
-/

namespace TouchProbe.Yaml

/-- A token that may turn out to open a key. -/
structure KeyCandidate where
  /-- The number of tokens before it. -/
  before : Nat
  /-- Whether nothing but a key can stand there. -/
  required : Bool
  spot : Spot

/-- The state of the reader of tokens. -/
structure Scan where
  cursor : Cursor
  /-- The tokens so far, the last one first. -/
  tokens : List Token := []
  /-- The number of tokens so far. -/
  count : Nat := 0
  /-- The number of brackets that are open. -/
  depth : Nat := 0
  /-- The column of the innermost collection outside brackets. -/
  indent : Int := -1
  /-- The columns of the collections around it. -/
  outer : List Int := []
  /-- Whether a key may open here. -/
  keyAllowed : Bool := true
  /-- The candidates, by the number of open brackets. -/
  candidates : List (Nat × KeyCandidate) := []

namespace Scan

def push (s : Scan) (t : Token) : Scan :=
  { s with tokens := t :: s.tokens, count := s.count + 1 }

def goto (s : Scan) (c : Cursor) : Scan := { s with cursor := c }

/-- The state after one more token, for which some characters stand. -/
def take (s : Scan) (n : Nat) (t : Token) : Scan := (s.goto (s.cursor.skip n)).push t

/-- A list with a token put before its first `n` members; the list is given last one first. -/
def insertAfter (t : Token) : Nat → List Token → List Token
  | 0, ts => t :: ts
  | _ + 1, [] => [t]
  | n + 1, x :: ts => x :: insertAfter t n ts

/-- The state with a token put after the first `before` ones. -/
def insert (s : Scan) (before : Nat) (t : Token) : Scan :=
  { s with tokens := insertAfter t (s.count - before) s.tokens, count := s.count + 1 }

/-- The state without the collections that lie right of a column, given the columns around. -/
def closeRightOf (column : Int) (s : Scan) : List Int → Scan
  | [] => { s with outer := [] }
  | i :: rest =>
    if column < s.indent then closeRightOf column ({ s with indent := i }.push .blockEnd) rest
    else { s with outer := i :: rest }

/-- The state without the collections that end before a column; brackets keep them open. -/
def unwind (s : Scan) (column : Int) : Scan :=
  if s.depth = 0 then closeRightOf column s s.outer else s

/-- The state with a new collection in a column, if that is right of the one around it; whether
there is one. -/
def indentTo (s : Scan) (column : Nat) : Bool × Scan :=
  if s.indent < column then
    (true, { s with outer := s.indent :: s.outer, indent := column })
  else (false, s)

def candidate? (s : Scan) : Option KeyCandidate := s.candidates.lookup s.depth

/-- The state without the candidate at the current depth, which must not be a required one. -/
def dropCandidate (s : Scan) : Reads Scan :=
  match s.candidate? with
  | none => .ok s
  | some k =>
    if k.required then .error .illFormed
    else .ok { s with candidates := s.candidates.filter (·.1 != s.depth) }

/-- The state in which the token at the cursor is a candidate, if a key may open there. -/
def saveCandidate (s : Scan) : Reads Scan :=
  if !s.keyAllowed then .ok s
  else do
    let s ← s.dropCandidate
    let k : KeyCandidate := {
      before := s.count
      required := s.depth == 0 && s.indent == s.cursor.column
      spot := s.cursor.spot }
    return { s with candidates := (s.depth, k) :: s.candidates }

def longestKey : Nat := 1024

def isStale (s : Scan) (k : KeyCandidate) : Bool :=
  k.spot.line != s.cursor.spot.line || longestKey < s.cursor.spot.index - k.spot.index

def dropStale (s : Scan) : Reads Scan :=
  if s.candidates.any fun k => s.isStale k.2 && k.2.required then .error .illFormed
  else .ok { s with candidates := s.candidates.filter fun k => !s.isStale k.2 }

/-- The state at the next token, after spaces, comments and line ends. -/
def toToken (fuel : Nat) (s : Scan) : Scan :=
  match fuel with
  | 0 => s
  | fuel + 1 =>
    let c := s.cursor.skipSpaces
    let c := if c.sees '#' then c.toLineEnd else c
    if c.rest.head?.any isBreak then
      toToken fuel { s with cursor := c.next, keyAllowed := s.keyAllowed || s.depth == 0 }
    else s.goto c

/-! ### Single tokens -/

/-- Ends the collections and forgets the candidate, before a mark of the document level. -/
def endAll (s : Scan) : Reads Scan := do
  let s ← (s.unwind (-1)).dropCandidate
  return { s with keyAllowed := false }

def openBracket (s : Scan) (t : Token) : Reads Scan := do
  let s ← s.saveCandidate
  return { s with depth := s.depth + 1, keyAllowed := true }.take 1 t

def closeBracket (s : Scan) (t : Token) : Reads Scan := do
  let s ← s.dropCandidate
  if s.depth = 0 then throw .illFormed
  return { s with depth := s.depth - 1, keyAllowed := false }.take 1 t

def comma (s : Scan) : Reads Scan := do
  let s ← s.dropCandidate
  return { s with keyAllowed := true }.take 1 .flowEntry

/-- The state in which a mark of a collection outside brackets may stand. -/
def openBlock (s : Scan) (t : Token) : Reads Scan :=
  if s.depth != 0 then .ok s
  else if !s.keyAllowed then .error .illFormed
  else
    let (isNew, s) := s.indentTo s.cursor.column
    .ok (if isNew then s.push t else s)

def dash (s : Scan) : Reads Scan := do
  let s ← s.openBlock .blockSequence
  let s ← { s with keyAllowed := true }.dropCandidate
  return s.take 1 .blockEntry

def question (s : Scan) : Reads Scan := do
  let s ← s.openBlock .blockMapping
  let s ← { s with keyAllowed := s.depth == 0 }.dropCandidate
  return s.take 1 .key

def colon (s : Scan) : Reads Scan :=
  match s.candidate? with
  | some k =>
    let s := { s with candidates := s.candidates.filter (·.1 != s.depth) }.insert k.before .key
    let (isNew, s) := if s.depth = 0 then s.indentTo k.spot.column else (false, s)
    let s := if isNew then s.insert k.before .blockMapping else s
    .ok ({ s with keyAllowed := false }.take 1 .value)
  | none => do
    let s ← s.openBlock .blockMapping
    let s ← { s with keyAllowed := s.depth == 0 }.dropCandidate
    return s.take 1 .value

def mayOpenKey (s : Scan) (read : Cursor → Reads (Token × Cursor)) : Reads Scan := do
  let s ← s.saveCandidate
  let (t, c) ← read s.cursor
  return ({ s with keyAllowed := false }.goto c).push t

def plain (s : Scan) : Reads Scan := do
  let s ← s.saveCandidate
  let c := s.cursor
  let (text, newLine, c) :=
    plainFrom (c.rest.length + 1) (s.depth != 0) (s.indent + 1) [] false c
  return ({ s with keyAllowed := newLine }.goto c).push (.scalar (String.ofList text) true)

def block (s : Scan) (isFolded : Bool) : Reads Scan := do
  let s ← { s with keyAllowed := true }.dropCandidate
  let (t, c) ← blockScalar isFolded s.indent s.cursor
  return (s.goto c).push t

/-- The marks that no plain scalar begins with. -/
def isIndicator (c : Char) : Bool :=
  "-?:,[]#&*!|>'\"%@".toList.contains c || c.toNat = 0x60 || c.toNat = 0x7B || c.toNat = 0x7D

def startsPlain (s : Scan) : List Char → Bool
  | [] => false
  | c :: r =>
    (!atGap (c :: r) && !isIndicator c) ||
      (!atGap r && (c = '-' || (s.depth = 0 && (c = '?' || c = ':'))))

/-- Whether a mark that needs a gap after it outside brackets stands at a text. -/
def isMark (s : Scan) (r : List Char) : Bool := s.depth != 0 || atGap r

def token (s : Scan) : Reads Scan :=
  let column := s.cursor.column
  match s.cursor.rest with
  | [] => .ok s
  | c :: r =>
    if c = '%' && column = 0 then do
      let s ← s.endAll
      let (t, c) ← directiveToken s.cursor
      return (s.goto c).push t
    else if column = 0 && atDocumentMark (c :: r) then do
      let s ← s.endAll
      return s.take 3 (if c = '-' then .documentStart else .documentEnd)
    else if c = '[' then s.openBracket .flowSequence
    else if c.toNat = 0x7B then s.openBracket .flowMapping
    else if c = ']' then s.closeBracket .flowSequenceEnd
    else if c.toNat = 0x7D then s.closeBracket .flowMappingEnd
    else if c = ',' then s.comma
    else if c = '-' && atGap r then s.dash
    else if c = '?' && s.isMark r then s.question
    else if c = ':' && s.isMark r then s.colon
    else if c = '*' then
      s.mayOpenKey fun c => do
        let (name, c) ← anchorName c
        return (.alias name, c)
    else if c = '&' then
      s.mayOpenKey fun c => do
        let (name, c) ← anchorName c
        return (.anchor name, c)
    else if c = '!' then s.mayOpenKey tagToken
    else if c = '|' && s.depth = 0 then s.block false
    else if c = '>' && s.depth = 0 then s.block true
    else if c = '\'' then s.mayOpenKey (quotedScalar false)
    else if c = '"' then s.mayOpenKey (quotedScalar true)
    else if s.startsPlain (c :: r) then s.plain
    else .error .illFormed

def finish (s : Scan) : Reads Scan := do return (← s.endAll).push .streamEnd

/-- The number of tokens that can be taken without a look at more of the text: a key that may
still come into being holds back the tokens from its place on. -/
def settled (s : Scan) : Nat :=
  s.candidates.foldl (fun n k => if s.isStale k.2 then n else min n k.2.before) s.count

/-- The state after the next token, and whether the text ended. -/
def step (s : Scan) : Reads (Scan × Bool) := do
  let s ← (s.toToken (s.cursor.rest.length + 1)).dropStale
  let s := s.unwind s.cursor.column
  if s.cursor.rest.isEmpty then return (← s.finish, true)
  return (← s.token, false)

/-- Whether a reader has come so far that it looks for more of the text. -/
def isAtEnd (s : Scan) : Bool :=
  match s.cursor.rest with
  | [] | [_] => true
  | _ => false

/-- The state after the next token, and whether the text ended.  Where the text is cut, whoever
comes to the end of what there is of it is stopped. -/
def stepBefore (stop : Option Problem) (s : Scan) : Reads (Scan × Bool) :=
  match stop, s.step with
  | some problem, .ok (next, _) => if next.isAtEnd then .error problem else .ok (next, false)
  | some problem, .error .unfinished => .error problem
  | _, r => r

/-- The tokens up to the end of the text, or up to a fault.  Every token but the last stands for at
least one character, so as many steps as there are characters are enough. -/
def run (stop : Option Problem) (fuel : Nat) (s : Scan) : List Token × Option BreakOff :=
  match fuel, s.stepBefore stop with
  | fuel + 1, .ok (next, false) => run stop fuel next
  | _ + 1, .ok (last, true) => (last.tokens.reverse, none)
  | _ + 1, .error problem => (s.tokens.reverse, some ⟨s.settled, problem⟩)
  | 0, _ => (s.tokens.reverse, some ⟨s.settled, .illFormed⟩)

end Scan

/-- The tokens of what there is of a text, and where they break off. -/
def tokensOf (text : Supply) : List Token × Option BreakOff :=
  let start : Cursor := ⟨{}, text.chars⟩
  let start := if start.sees byteOrderMark then start.next else start
  Scan.run text.stop (text.chars.length + 2) { cursor := start }

end TouchProbe.Yaml
