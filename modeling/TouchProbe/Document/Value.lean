import TouchProbe.Document.Validated
import TouchProbe.Text.Pattern

/-! # Values of documents

How single values of a document are read.  Numbers may be written as texts, truth values count
as numbers, and a float without a fraction counts as a whole number.

Texts that stand for numbers use ASCII digits, may have blanks around them, and may have single
underscores between other characters.
-/

namespace TouchProbe.Document

open Number

/-- The text of a value: a text, or bytes that are one. -/
def textOf? : Datum → Option String
  | .text s => some s
  | .bytes bs => (Text.decode bs).toOption
  | _ => none

/-- A text, which may have lone halves. -/
def text (d : Datum) : Validated String :=
  match d, textOf? d with
  | _, some s => .valid s
  | .bytes _, none => .breach .noCharacters
  | _, none => .breach .notText

/-- A text that is read further, which must consist of characters. -/
def wholeText (s : String) : Validated String :=
  if Text.hasHalf s.toList then .breach .noCharacters else .valid s

/-- A text in a message, with all that cannot be shown replaced. -/
def shownText (s : String) : String := String.ofList (Text.withoutHalves s.toList)

def kindName (d : Datum) : String :=
  match d.bare with
  | .null => "NoneType"
  | .bool _ => "bool"
  | .int _ => "int"
  | .float _ => "float"
  | .text _ => "str"
  | .date _ => "date"
  | .moment _ => "datetime"
  | .bytes _ => "bytes"
  | .list _ => "list"
  | .pair _ _ => "tuple"
  | .set _ => "set"
  | .mapping _ | .loop _ _ => "dict"

/-- A value in a message, in some form; one that holds a number too long to write is told by its
kind. -/
def shownValue (form : Datum → String) (d : Datum) : String :=
  if d.isTooLongIn [] then s!"<unprintable {kindName d} object>" else shownText (form d)

def optionalText : Datum → Validated (Option String)
  | .null => .valid none
  | d => (text d).map some

/-- The characters of a text without its underscores; `none` if one of them is first, last or
next to another one. -/
def withoutUnderscores (s : List Char) : Option (List Char) :=
  if s.head? = some '_' || s.getLast? = some '_' || Text.anywhere (·.take 2 == ['_', '_']) s then none
  else some (s.filter (· != '_'))

def isAscii (s : List Char) : Bool := s.all (·.toNat < 128)

/-- The float that a text of ASCII characters stands for, without any blanks. -/
def plainFloat? (s : List Char) : Option Float :=
  let sign := takeSign s
  match named? sign.1 sign.2, scientific? s with
  | some x, _ => some x
  | none, some (n, []) => if isAscii s then some n.toFloat else none
  | none, _ => none

/-- The float that a text stands for.  Blanks around it are allowed only where there are no
underscores. -/
def textFloat? (s : List Char) : Option Float :=
  plainFloat? (trimNumeral s) <|> (withoutUnderscores s).bind plainFloat?

/-- A float.  Bytes that are no text cannot be read as one. -/
def float (d : Datum) : Validated Float :=
  match d, textOf? d with
  | _, some s =>
    (wholeText s).andThen fun s =>
      match textFloat? s.toList with
      | some x => .valid x
      | none => .breach .unreadableFloat
  | .scalar s, none => match s.number? with
    | some n => match n.toFloat with
      | .ok x => .valid x
      | .error _ => .breach .notFloat
    | none => .breach .notFloat
  | .bytes _, none => .breach .unreadableFloat
  | _, none => .breach .notFloat

def nonNegative (d : Datum) : Validated Float := (float d).ensure (fun x => zero ≤ x) .negative

def positive (d : Datum) : Validated Float := (float d).ensure (fun x => zero < x) .notPositive

/-- What comes of reading a whole number that is written without anything else. -/
inductive Digits where
  | number (n : Int)
  | tooLong
  | unreadable

/-- A whole number as JSON writes it: a minus sign if it is below zero, and digits of which only a
lone one may be zero in front. -/
def strictInt (s : List Char) : Digits :=
  let negative := s.head? = some '-'
  let digits := if negative then s.drop 1 else s
  let run := digits.takeWhile Char.isDigit
  if run.isEmpty || (run.head? = some '0' && 1 < run.length) then .unreadable
  else if Scalar.digitLimit < run.length + (if negative then 1 else 0) then .tooLong
  else if run.length < digits.length then .unreadable
  else .number (signed negative (Text.ofDigits (run.map fun c => c.toNat - 48)))

/-- What follows the zeros and underscores at the front of digits, given the character before: a
digit or a minus sign, or a point with the character before it. -/
def afterZeros (before : Char) : List Char → Option (List Char)
  | [] => some [before]
  | c :: s =>
    if c = '0' || c = '_' then afterZeros c s
    else if c.isDigit || c = '-' then some (c :: s)
    else if c = '.' then some (before :: c :: s)
    else none

/-- Digits without the zeros in front of them, of which the last one stays. -/
def dropLeadingZeros (s : List Char) : Option (List Char) :=
  match s with
  | c :: rest =>
    if c = '0' then afterZeros c rest
    else if c.isDigit || c = '-' then some s
    else none
  | [] => none

/-- A numeral without a point that zeros alone follow, at least one. -/
def dropZeroFraction (s : List Char) : List Char :=
  let whole := s.takeWhile (· != '.')
  let fraction := s.drop (whole.length + 1)
  if !fraction.isEmpty && fraction.all (· = '0') then whole else s

/-- The whole number that a text stands for, which is first read as it is and then without
blanks, a plus sign, zeros and underscores. -/
def textInt (s : List Char) : Digits :=
  match strictInt s with
  | .unreadable =>
    let trimmed := trimNumeral s
    let unsigned := if trimmed.head? = some '+' then trimmed.drop 1 else trimmed
    match dropLeadingZeros unsigned with
    | none => .unreadable
    | some digits =>
      let digits := dropZeroFraction digits
      match strictInt ((withoutUnderscores digits).getD digits) with
      | .tooLong => .unreadable
      | r => r
  | r => r

def floatInt (x : Float) : Validated Int :=
  match truncate? x with
  | none => .breach .notFinite
  | some n =>
    if !isWhole x then .breach .fractional
    else if n.natAbs < 2 ^ 63 then .valid n
    else .breach .intTooLong

def int (d : Datum) : Validated Int :=
  match d, textOf? d with
  | _, some s =>
    (wholeText s).andThen fun s =>
      match textInt s.toList with
      | .number n => .valid n
      | .tooLong => .breach .intTooLong
      | .unreadable => .breach .unreadableInt
  | .bool b, none => .valid (if b then 1 else 0)
  | .int n, none => .valid n
  | .float x, none => floatInt x
  | .bytes _, none => .breach .unreadableInt
  | _, none => .breach .notInt

/-- A whole number that is not below zero. -/
def count (d : Datum) : Validated Int := (int d).ensure (fun n => 0 ≤ n) .negative

/-- Names as a message lists them, the last one after an "or". -/
def alternatives : List String → String
  | [] => ""
  | [a] => Text.quote a
  | [a, b] => s!"{Text.quote a} or {Text.quote b}"
  | a :: rest => s!"{Text.quote a}, {alternatives rest}"

def oneOf {α : Type} (all : List α) (name : α → String) (d : Datum) : Validated α :=
  let unknown := Validated.breach (.notOneOf (alternatives (all.map name)))
  match d with
  | .text s =>
    (wholeText s).andThen fun s =>
      match all.find? (name · == s) with
      | some a => .valid a
      | none => unknown
  | _ => unknown

/-- Whether a whole number is beyond a machine word. -/
def isBeyondWord (n : Int) : Bool := n < -(2 ^ 63) || 2 ^ 63 ≤ n

/-- One or minus one. -/
def direction (d : Datum) : Validated Int :=
  if d.same (.int 1) then .valid 1
  else if d.same (.int (-1)) then .valid (-1)
  else match d with
    | .int n => .breach (if isBeyondWord n then .intTooLong else .notOneOf "1 or -1")
    | _ => .breach (.notOneOf "1 or -1")

def list {α : Type} (check : Datum → Validated α) (d : Datum) : Validated (List α) :=
  match d.bare with
  | .list xs | .set xs => Validated.each check 0 xs
  | .pair a b => Validated.each check 0 [a, b]
  | _ => .breach .notList

def record {α : Type} (name : String) (check : Record.Entries → Validated α) (d : Datum) :
    Validated α :=
  match d.bare with
  | .mapping entries => check entries
  | _ => .breach (.notRecord name)

def required {α : Type} (name : String) (check : Datum → Validated α)
    (entries : Record.Entries) : Validated α :=
  match Record.get? entries name with
  | some d => (check d).within (.field name)
  | none => (Validated.breach .missing).within (.field name)

/-- A field that has a usual value. -/
def optional {α : Type} (name : String) (usual : α) (check : Datum → Validated α)
    (entries : Record.Entries) : Validated α :=
  match Record.get? entries name with
  | some d => (check d).within (.field name)
  | none => .valid usual

end TouchProbe.Document
