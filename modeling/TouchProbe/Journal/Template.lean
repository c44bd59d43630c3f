import TouchProbe.Datum

/-! # Templates

Texts with slots that values fill.  A slot is a percent sign, flags, a width, a precision and a
letter, which says how the value is written; two percent signs are one that is meant as such.

`pieces` cuts a template at its slots, and `fill` writes the pieces one after the other.  A slot
without an end is a piece like any other, so that its fault shows only when the writing gets
there.
-/

namespace TouchProbe.Template

open Number

inductive Extent where
  | free
  | given (n : Nat)
  /-- Taken from the values. -/
  | taken
  deriving DecidableEq, Repr

/-- The key of a value, where the values are a mapping. -/
inductive Key where
  | none
  | named (name : String)
  /-- A key without an end. -/
  | unclosed
  deriving DecidableEq, Repr

structure Slot where
  key : Key
  flags : List Char
  width : Extent
  precision : Extent
  /-- The letter; none if the template ends before it. -/
  letter : Option Char
  /-- The index of the letter in the template. -/
  index : Nat
  deriving DecidableEq, Repr

inductive Piece where
  | char (c : Char)
  | slot (s : Slot)
  deriving DecidableEq, Repr

/-! ### Cutting -/

def isFlag (c : Char) : Bool := ['-', '+', ' ', '#', '0'].contains c

/-- The key at the start of a text, up to the parenthesis that closes it, and what follows. -/
def readName (depth : Nat) : List Char → Option (List Char × List Char)
  | [] => none
  | ')' :: rest =>
    match depth with
    | 0 => some ([], rest)
    | depth + 1 => (readName depth rest).map fun r => (')' :: r.1, r.2)
  | c :: rest =>
    (readName (if c = '(' then depth + 1 else depth) rest).map fun r => (c :: r.1, r.2)

def readKey : List Char → Key × List Char
  | '(' :: rest =>
    match readName 0 rest with
    | some (name, rest) => (.named (String.ofList name), rest)
    | none => (.unclosed, [])
  | s => (.none, s)

def numberOf (ds : List Char) : Nat := Text.ofDigits (ds.map fun c => c.toNat - '0'.toNat)

def readWidth : List Char → Extent × List Char
  | '*' :: rest => (.taken, rest)
  | s =>
    let ds := s.takeWhile Char.isDigit
    (if ds.isEmpty then .free else .given (numberOf ds), s.dropWhile Char.isDigit)

def readPrecision : List Char → Extent × List Char
  | '.' :: '*' :: rest => (.taken, rest)
  | '.' :: s => (.given (numberOf (s.takeWhile Char.isDigit)), s.dropWhile Char.isDigit)
  | s => (.free, s)

/-- A text without the mark of a word size at its start, which means nothing. -/
def skipSize : List Char → List Char
  | 'h' :: rest | 'l' :: rest | 'L' :: rest => rest
  | s => s

/-- The slot whose percent sign has just been read, and what follows.  The index of the letter is
found from the length of the whole template. -/
def readSlot (total : Nat) (s : List Char) : Slot × List Char :=
  let (key, s) := readKey s
  let flags := s.takeWhile isFlag
  let (width, s) := readWidth (s.dropWhile isFlag)
  let (precision, s) := readPrecision s
  let s := skipSize s
  ({ key, flags, width, precision, letter := s.head?, index := total - s.length }, s.tail)

/-- The pieces of a template, after a number of characters that belong to the last one. -/
def piecesFrom (total skip : Nat) : List Char → List Piece
  | [] => []
  | c :: rest =>
    match skip with
    | skip + 1 => piecesFrom total skip rest
    | 0 =>
      if c != '%' then .char c :: piecesFrom total 0 rest
      else if rest.head? = some '%' then .char '%' :: piecesFrom total 1 rest
      else
        let (slot, after) := readSlot total rest
        .slot slot :: piecesFrom total (rest.length - after.length) rest

def pieces (template : String) : List Piece :=
  piecesFrom template.toList.length 0 template.toList

/-! ### Values -/

structure Supply where
  /-- The values by name, where they have names. -/
  named : Option (List (Datum × Datum))
  /-- The values that no slot has taken yet. -/
  values : List Datum

namespace Supply

/-- The supply of a list of values.  A mapping alone gives its values by name. -/
def ofList : List Datum → Supply
  | [.mapping entries] =>
    ⟨if entries.isEmpty then none else some entries, [.mapping entries]⟩
  | values => ⟨none, values⟩

/-- The supply after a key: its value is next. -/
def choose (s : Supply) : Key → Except Fault Supply
  | .none => .ok s
  | key =>
    match s.named, key with
    | some entries, .named name =>
      match Datum.lookup? entries (.text name) with
      | some value => .ok { s with values := [value] }
      | none => .error (.unknownWord name)
    | some _, _ => .error .openSlotName
    | none, _ => .error .wrongKind

def next (s : Supply) : Except Fault (Datum × Supply) :=
  match s.values with
  | [] => .error .wrongKind
  | value :: values => .ok (value, { s with values })

/-- The whole number that a value is; a truth value is one too. -/
def wholeOf : Datum → Except Fault Int
  | .int n => .ok n
  | .bool b => .ok (if b then 1 else 0)
  | _ => .error .wrongKind

structure Bounds where
  greatest : Nat
  /-- The fault of a greater one in the template. -/
  fault : Fault
  /-- The machine word that one taken from the values must fit. -/
  word : String

def widthBounds : Bounds := ⟨2 ^ 63 - 1, .slotTooWide, "ssize_t"⟩

def precisionBounds : Bounds := ⟨2 ^ 31 - 1, .slotTooPrecise, "int"⟩

def extent (s : Supply) (b : Bounds) : Extent → Except Fault (Option Int × Supply)
  | .free => .ok (none, s)
  | .given n => if b.greatest < n then .error b.fault else .ok (some n, s)
  | .taken => do
    let (value, s) ← s.next
    let n ← wholeOf value
    if b.greatest < n ∨ n < -b.greatest - 1 then throw (.beyondWord b.word)
    return (some n, s)

/-- Whether nothing is left that should have been taken. -/
def isSpent (s : Supply) : Bool := s.named.isSome || s.values.isEmpty

end Supply

/-! ### Writing -/

structure Filling where
  sign : List Char
  /-- What stands between the sign and the zeros that fill the width. -/
  lead : List Char
  body : List Char
  isNumber : Bool

def textFilling (precision : Option Int) (s : String) : Filling :=
  ⟨[], [], match precision with
    | some n => s.toList.take n.toNat
    | none => s.toList, false⟩

def signOf (flags : List Char) (negative : Bool) : List Char :=
  if negative then ['-']
  else if flags.contains '+' then ['+']
  else if flags.contains ' ' then [' ']
  else []

def wholeFilling (flags : List Char) (precision : Option Int) (base : Nat) (lead : List Char)
    (n : Int) : Filling :=
  let ds := Nat.toDigits base n.natAbs
  let zeros := List.replicate ((precision.getD 0).toNat - ds.length) '0'
  ⟨signOf flags (n < 0), if flags.contains '#' then lead else [], zeros ++ ds, true⟩

/-- The filling of a float whose text is known. -/
def floatFilling (flags : List Char) (s : String) : Filling :=
  match s.toList with
  | '-' :: body => ⟨signOf flags true, [], body, true⟩
  | body => ⟨signOf flags false, [], body, true⟩

def Filling.capital (f : Filling) : Filling :=
  { f with lead := f.lead.map Char.toUpper, body := f.body.map Char.toUpper }

def asciiOnly (s : String) : String :=
  String.ofList (s.toList.flatMap fun c => if c.toNat < 128 then [c] else Text.escapeCode c)

def numberIn : Datum → Except Fault Number
  | .scalar s => s.toNumber
  | _ => .error .wrongKind

def charIn : Datum → Except Fault Char
  | .text s => match s.toList with
    | [c] => .ok c
    | _ => .error .wrongKind
  | value => do
    let n ← Supply.wholeOf value
    if 0 ≤ n ∧ n < 0x110000 then .ok (Char.ofNat n.toNat) else .error .noSuchSlotCharacter

/-- A value written in a slot, before it is brought to the width. -/
def filling (slot : Slot) (letter : Char) (precision : Option Int) (value : Datum) :
    Except Fault Filling := do
  let flags := slot.flags
  let full := flags.contains '#'
  let places := (precision.getD 6).toNat
  let float (body : Nat → Int → List Char) : Except Fault Filling := do
    return floatFilling flags (writeWith body (← (← numberIn value).toFloat))
  match letter with
  | 's' => return textFilling precision value.plain
  | 'r' => return textFilling precision value.shown
  | 'a' => return textFilling precision (asciiOnly value.shown)
  | 'd' | 'i' | 'u' =>
    return wholeFilling flags precision 10 [] (← (← numberIn value).toInt)
  | 'o' => return wholeFilling flags precision 8 ['0', 'o'] (← Supply.wholeOf value)
  | 'x' => return wholeFilling flags precision 16 ['0', 'x'] (← Supply.wholeOf value)
  | 'X' => return (wholeFilling flags precision 16 ['0', 'x'] (← Supply.wholeOf value)).capital
  | 'f' => float (fixedMagnitude full places)
  | 'F' => return (← float (fixedMagnitude full places)).capital
  | 'e' => float (powerMagnitude full places)
  | 'E' => return (← float (powerMagnitude full places)).capital
  | 'g' => float (generalMagnitude full places)
  | 'G' => return (← float (generalMagnitude full places)).capital
  | 'c' => return ⟨[], [], [← charIn value], false⟩
  | letter => throw (.unknownSlot letter slot.index)

/-- A filling brought to a width, which is on the left side if it is negative. -/
def Filling.atWidth (f : Filling) (flags : List Char) (width : Option Int) : List Char :=
  let least := width.getD 0
  let gap := least.natAbs - (f.sign ++ f.lead ++ f.body).length
  if flags.contains '-' || least < 0 then
    f.sign ++ f.lead ++ f.body ++ List.replicate gap ' '
  else if f.isNumber && flags.contains '0' then
    f.sign ++ f.lead ++ List.replicate gap '0' ++ f.body
  else List.replicate gap ' ' ++ f.sign ++ f.lead ++ f.body

def fillPieces (s : Supply) : List Piece → Except Fault (List Char)
  | [] => if s.isSpent then .ok [] else .error .wrongKind
  | .char c :: rest => (fillPieces s rest).map (c :: ·)
  | .slot slot :: rest => do
    let s ← s.choose slot.key
    let (width, s) ← s.extent Supply.widthBounds slot.width
    let (precision, s) ← s.extent Supply.precisionBounds slot.precision
    match slot.letter with
    | none => throw .openSlot
    | some letter =>
      let (value, s) ← s.next
      let f ← filling slot letter precision value
      return f.atWidth slot.flags width ++ (← fillPieces s rest)

def fill (template : String) (values : List Datum) : Except Fault String :=
  (fillPieces (.ofList values) (pieces template)).map String.ofList

end TouchProbe.Template
