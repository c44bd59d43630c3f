import TouchProbe.Sequence.Step
import TouchProbe.Text.Letters
import TouchProbe.Text.Pattern

/-! # Reading one line

What a line of a program says.  `code` takes the command text off a line: what stands before the
first parenthesis, trimmed and in upper case.  All other readers of commands work on that text
and find their words anywhere in it, whatever stands around them.

A word such as `G0` is a word only where no digit and no point follows.
-/

namespace TouchProbe.Program

open Text Number

/-- Whether a trimmed line is a comment as a whole. -/
def isComment : List Char → Bool
  | '(' :: _ => true
  | _ => false

def code (line : List Char) : List Char := upper (trim (line.takeWhile (· != '(')))

/-! ### Words -/

/-- Whether a text begins with a word that ends there. -/
def startsWord (w : List Char) (s : List Char) : Bool := (literal w s).any numberEnds

def hasWord (w : List Char) (s : List Char) : Bool := anywhere (startsWord w) s

/-- Whether a text begins with a spindle start: `M3` or `M4`, perhaps with a zero before the
digit. -/
def startsSpindleWord : List Char → Bool
  | 'M' :: '0' :: '3' :: s | 'M' :: '0' :: '4' :: s => noDigit s
  | 'M' :: '3' :: s | 'M' :: '4' :: s => noDigit s
  | _ => false

def afterSpindleWord (s : List Char) : List Char :=
  match s with
  | 'M' :: '0' :: _ :: r => r
  | 'M' :: _ :: r => r
  | _ => s

/-- Whether a text begins with a speed: `S` and a digit right after it. -/
def startsSpeed : List Char → Bool
  | 'S' :: d :: _ => isDigit d
  | _ => false

/-- Whether a command starts the spindle: a speed and a spindle word on one line, in either
order. -/
def startsSpindle (s : List Char) : Bool :=
  anywhere (fun t =>
    (startsSpeed t && laterOnLine startsSpindleWord (t.drop 2)) ||
      (startsSpindleWord t && laterOnLine startsSpeed (afterSpindleWord t))) s

def isProbing (s : List Char) : Bool :=
  anywhere (fun t => (literal "G38.2".toList t).any noDigit) s

/-- Whether a command sets the work origin: `G10`, `L20` and `P1` on one line, in this order. -/
def setsOrigin (s : List Char) : Bool :=
  let p1 := laterOnLine (startsWord "P1".toList)
  let l20 := laterOnLine fun t =>
    (literal "L20".toList t).any fun r => numberEnds r && p1 r
  anywhere (fun t => (literal "G10".toList t).any fun r => numberEnds r && l20 r) s

/-- Texts with at least one blank between each of them and the next. -/
def isSpaced : List (List Char) → List Char → Bool
  | [], s => s.isEmpty
  | [w], s => s == w
  | w :: ws, s => match literal w s with
    | some (c :: r) => isBlank c && isSpaced ws (trimStart r)
    | _ => false

/-- Whether a command is the return to the origin that closes a program; its two axis words
are written together. -/
def isReturn (s : List Char) : Bool :=
  isSpaced ["G0".toList, "G54".toList, "G90".toList, "X0Y0".toList] s

inductive Command where
  | units
  | spindle
  | probe
  | origin
  | goHome
  | rapid
  | dwell
  | other
  deriving DecidableEq, Repr

/-- The kind of a command text.  One text may have the words of several kinds; the first kind
in this order counts. -/
def classify (s : List Char) : Command :=
  if hasWord "G20".toList s || hasWord "G21".toList s then .units
  else if startsSpindle s then .spindle
  else if isProbing s then .probe
  else if setsOrigin s then .origin
  else if isReturn s then .goHome
  else if hasWord "G0".toList s || hasWord "G00".toList s then .rapid
  else if hasWord "G4".toList s || hasWord "G04".toList s then .dwell
  else .other

/-- Whether a command text belongs to the setup of a machine: it names machine coordinates or
starts the spindle. -/
def isSetup (s : List Char) : Bool := hasWord "G53".toList s || anywhere startsSpindleWord s

/-- How a command means its axis words. -/
def modeOf (s : List Char) : PositionMode :=
  if hasWord "G91".toList s then .relative
  else if hasWord "G90".toList s then .absolute
  else .none

/-- The coordinates that a command names. -/
def systemOf (s : List Char) : CoordinateSystem :=
  if hasWord "G53".toList s then .machine
  else if hasWord "G54".toList s then .wcs
  else .none

/-! ### Numbers -/

def axisWord? : List Char → Option (Axis × Float)
  | [] => none
  | c :: s => do
    let a ← Axis.ofLetter? c
    let n ← decimal? (trimStart s)
    some (a, n.1.toFloat)

/-- The values by axis of a command text; of an axis that is named twice the last value
counts. -/
def axes (s : List Char) : ByAxis Float := ByAxis.ofList (allAlong axisWord? s)

/-- The number without a sign that follows a letter at the front of a text. -/
def letterValue? (letter : Char) : List Char → Option Float
  | [] => none
  | c :: s => if c = letter then (unsigned? (trimStart s)).map (·.1.toFloat) else none

def feed? (s : List Char) : Option Float := firstAnywhere (letterValue? 'F') s

def pause? (s : List Char) : Option Float := firstAnywhere (letterValue? 'P') s

/-- The digits that follow an `S` at the front of a text, as a number. -/
def speedWord? : List Char → Option Float
  | 'S' :: s => match spanDigits (trimStart s) with
    | ([], _) => none
    | (ds, _) => some (nearestDecimal false (ofDigits ds) 0)
  | _ => none

def speed? (s : List Char) : Option Float := firstAnywhere speedWord? s

/-! ### Comments -/

/-- A text up to its last closing parenthesis. -/
def untilLastClosing (s : List Char) : Option (List Char) :=
  match s.reverse.dropWhile (· != ')') with
  | _ :: r => some r.reverse
  | [] => none

/-- The text between the parenthesis at the front and the last one that closes on the line, if
anything stands between them. -/
def commentAt? : List Char → Option (List Char)
  | '(' :: c :: s =>
    if c = '\n' then none
    else (untilLastClosing (s.takeWhile (· != '\n'))).map (c :: ·)
  | _ => none

/-- The comment of a line, trimmed; `none` if nothing is left of it. -/
def comment? (line : List Char) : Option (List Char) :=
  match firstAnywhere commentAt? line with
  | some c => if (trim c).isEmpty then none else some (trim c)
  | none => none

/-- The pattern of a text in upper case, whatever the case of the letters it stands for. -/
def literalAnyCase : List Char → Pattern
  | [], s => some s
  | w :: ws, c :: s => if upperChar c = [w] || (w = 'I' && c = 'İ') then literalAnyCase ws s else none
  | _ :: _, [] => none

/-- Words at the front of a text in any case, with at least one blank between each of them and
the next. -/
def spacedWords : List (List Char) → Pattern
  | [], s => some s
  | [w], s => literalAnyCase w s
  | w :: ws, s => match literalAnyCase w s with
    | some (c :: r) => if isBlank c then spacedWords ws (trimStart r) else none
    | _ => none

/-- Whether a comment line opens the moves before a probe. -/
def isPreMovesBanner : List Char → Bool
  | '(' :: s =>
    let words := ["PRE-MOVES".toList, "FOR".toList, "PROBE".toList, "OPERATION".toList]
    (spacedWords words (trimStart s)).any fun r => match r with
      | c :: _ => !isWordChar c
      | [] => true
  | _ => false

/-! ### Buffer clearing -/

/-- The pause that empties the motion buffer, in seconds. -/
def clearingPause : Float := nearestDecimal false 1 (-2)

/-- Whether a line is one of the pauses that empty the motion buffer. -/
def isClearing (line : List Char) : Bool :=
  let s := trim line
  !s.isEmpty && !isComment s && classify (code s) == .dwell
    && (pause? (code s)).any (· == clearingPause)

end TouchProbe.Program
