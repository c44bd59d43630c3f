import TouchProbe.Number.Literal
import TouchProbe.Yaml.Token

/-! # Quoted scalars

Texts between single or double quotes.  A line end inside them becomes a space, or as many line
ends as there are empty lines after it; spaces around it are dropped.  Between single quotes only
the quote itself is written in another way, twice; between double quotes a backslash begins an
escape.
-/

namespace TouchProbe.Yaml

def escapes : List (Char × Nat) := [
  ('0', 0), ('a', 7), ('b', 8), ('t', 9), ('\t', 9), ('n', 10), ('v', 11), ('f', 12), ('r', 13),
  ('e', 27), (' ', 32), ('"', 34), ('\\', 92), ('/', 47), ('N', 0x85), ('_', 0xA0),
  ('L', 0x2028), ('P', 0x2029)]

def escapeWidths : List (Char × Nat) := [('x', 2), ('u', 4), ('U', 8)]

/-- The character of an escaped code, which may be that of a half. -/
def codeChar (n : Nat) : Reads Char :=
  if n < 0x110000 then .ok (Text.ofCode n)
  else .error (.fault (if n < 2 ^ 31 then .noSuchCharacter else .beyondWord "int"))

/-- The line ends of the empty lines at the cursor, and the cursor at the text after them.  A
mark between documents may not stand there. -/
def emptyLines (fuel : Nat) (c : Cursor) : Reads (List Char × Cursor) :=
  match fuel with
  | 0 => .ok ([], c)
  | fuel + 1 =>
    if atDocumentMark c.rest then .error .illFormed
    else
      let c := c.skipWhile fun x => x = ' ' || x = '\t'
      match c.rest with
      | x :: _ =>
        if isBreak x then do
          let (breaks, c) ← emptyLines fuel c.next
          return (breakText x :: breaks, c)
        else .ok ([], c)
      | [] => .ok ([], c)

/-- What a line end and the empty lines after it stand for. -/
def folded (first : Char) (breaks : List Char) : List Char :=
  if breakText first != '\n' then breakText first :: breaks
  else if breaks.isEmpty then [' ']
  else breaks

/-- Blanks inside a quoted scalar: themselves, or what the line end after them stands for. -/
def quotedBlanks (c : Cursor) : Reads (List Char × Cursor) :=
  let (blanks, c) := c.span fun x => x = ' ' || x = '\t'
  match c.rest with
  | [] => .error .unfinished
  | x :: _ =>
    if isBreak x then do
      let (breaks, c) ← emptyLines (c.rest.length + 1) c.next
      return (folded x breaks, c)
    else .ok (blanks, c)

def escaped (c : Cursor) : Reads (List Char × Cursor) :=
  match c.rest with
  | [] => .error .unfinished
  | x :: _ =>
    match escapes.lookup x, escapeWidths.lookup x with
    | some n, _ => .ok ([Char.ofNat n], c.next)
    | none, some width =>
      let digits := c.next.rest.take width
      match Number.inBase? 16 digits with
      | some n =>
        if digits.length = width then do return ([← codeChar n], c.next.skip width)
        else .error .illFormed
      | none => .error .illFormed
    | none, none =>
      if isBreak x then emptyLines (c.rest.length + 1) c.next else .error .illFormed

/-- The text of a quoted scalar from some place inside it, and the cursor after it. -/
def quotedFrom (fuel : Nat) (double : Bool) (c : Cursor) : Reads (List Char × Cursor) :=
  match fuel with
  | 0 => .error .illFormed
  | fuel + 1 => do
    let goOn (part : List Char × Cursor) : Reads (List Char × Cursor) := do
      let (more, c) ← quotedFrom fuel double part.2
      return (part.1 ++ more, c)
    match c.rest with
    | [] => throw .unfinished
    | '\'' :: '\'' :: _ => if double then goOn (['\''], c.next) else goOn (['\''], c.skip 2)
    | x :: _ =>
      if x = (if double then '"' else '\'') then return ([], c.next)
      else if double && x = '\\' then goOn (← escaped c.next)
      else if atGap c.rest then goOn (← quotedBlanks c)
      else goOn ([x], c.next)

def quotedScalar (double : Bool) (c : Cursor) : Reads (Token × Cursor) := do
  let (text, c) ← quotedFrom (c.rest.length + 1) double c.next
  return (.scalar (String.ofList text) false, c)

end TouchProbe.Yaml
