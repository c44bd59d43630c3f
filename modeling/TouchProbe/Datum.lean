import TouchProbe.Scalar

/-! # Data trees

A `Datum` is a value as documents hold it: a scalar, a date, bytes, or a collection of values.
The entries of a mapping keep the order in which their keys were first given, and a key that is
given again keeps its place and takes the new value.

A document may hold a collection that is one of its own parts.  Such a collection is a `loop`: its
label tells it from others, and it is unrolled as far as anyone looks.  `Datum.bare` is the
collection without its label.
-/

namespace TouchProbe

inductive Datum where
  | scalar (s : Scalar)
  | date (d : Date)
  | moment (m : Moment)
  | bytes (bs : List UInt8)
  | list (xs : List Datum)
  | pair (first second : Datum)
  | set (xs : List Datum)
  | mapping (entries : List (Datum × Datum))
  /-- A collection that is a part of itself. -/
  | loop (label : Nat) (d : Datum)

instance : Inhabited Datum := ⟨.scalar .null⟩

namespace Datum

@[match_pattern] abbrev null : Datum := .scalar .null

@[match_pattern] abbrev bool (b : Bool) : Datum := .scalar (.bool b)

@[match_pattern] abbrev int (n : Int) : Datum := .scalar (.int n)

@[match_pattern] abbrev float (x : Float) : Datum := .scalar (.float x)

@[match_pattern] abbrev text (s : String) : Datum := .scalar (.text s)

/-- A value without the label of a collection that is a part of itself. -/
def bare : Datum → Datum
  | .loop _ d => d
  | d => d

/-! ### Equality -/

mutual

/-- Whether two values are equal: numbers by value, moments by instant, mappings and sets
whatever the order of their members. -/
def same : Datum → Datum → Bool
  | .scalar a, .scalar b => a.same b
  | .date a, .date b => a == b
  | .moment a, .moment b => a.same b
  | .bytes a, .bytes b => a == b
  | .list xs, .list ys => sameEach xs ys
  | .pair a b, .pair c d => a.same c && b.same d
  | .set xs, .set ys => xs.length == ys.length && allIn xs ys
  | .mapping es, .mapping fs => es.length == fs.length && allEntriesIn es fs
  | _, _ => false

def sameEach : List Datum → List Datum → Bool
  | [], [] => true
  | x :: xs, y :: ys => x.same y && sameEach xs ys
  | _, _ => false

/-- Whether every member of a list equals one of another list. -/
def allIn : List Datum → List Datum → Bool
  | [], _ => true
  | x :: xs, ys => ys.any x.same && allIn xs ys

def allEntriesIn : List (Datum × Datum) → List (Datum × Datum) → Bool
  | [], _ => true
  | (k, v) :: es, fs => (fs.any fun f => k.same f.1 && v.same f.2) && allEntriesIn es fs

end

/-! ### Mappings -/

/-- The entries of a mapping with one more: a key that is there takes the new value. -/
def insertEntry (entries : List (Datum × Datum)) (key value : Datum) : List (Datum × Datum) :=
  match entries with
  | [] => [(key, value)]
  | e :: rest =>
    if e.1.same key then (e.1, value) :: rest else e :: insertEntry rest key value

def ofEntries (entries : List (Datum × Datum)) : Datum :=
  .mapping (entries.foldl (fun m e => insertEntry m e.1 e.2) [])

def lookup? (entries : List (Datum × Datum)) (key : Datum) : Option Datum :=
  (entries.find? (·.1.same key)).map (·.2)

/-- A mapping whose keys are texts. -/
def record (fields : List (String × Datum)) : Datum :=
  .mapping (fields.map fun f => (.text f.1, f.2))

/-! ### Values in messages -/

def byteChars (mark : Char) (b : UInt8) : List Char :=
  let n := b.toNat
  if n == mark.toNat || n == 92 then ['\\', Char.ofNat n]
  else if n == 10 then ['\\', 'n']
  else if n == 13 then ['\\', 'r']
  else if n == 9 then ['\\', 't']
  else if 32 ≤ n && n ≤ 126 then [Char.ofNat n]
  else '\\' :: 'x' :: Text.hexDigits 2 n

/-- The characters whose codes are some bytes. -/
def byteText (bs : List UInt8) : List Char := bs.map fun b => Char.ofNat b.toNat

def bytesShown (bs : List UInt8) : String :=
  let mark := Text.quoteMark (byteText bs)
  String.ofList ('b' :: mark :: bs.flatMap (byteChars mark) ++ [mark])

/-- Texts between two marks, with commas between them. -/
def enclosed (first last : String) (parts : List String) : String :=
  first ++ ", ".intercalate parts ++ last

/-- What stands for a collection inside itself. -/
def ellipsis : Datum → String
  | .list _ => "[...]"
  | _ => "\x7b...\x7d"

mutual

/-- A value as messages show it, inside collections with some labels. -/
def shownIn (labels : List Nat) : Datum → String
  | .scalar s => s.shown
  | .date d => d.shown
  | .moment m => m.shown
  | .bytes bs => bytesShown bs
  | .list xs => enclosed "[" "]" (shownEach labels xs)
  | .pair a b => enclosed "(" ")" [a.shownIn labels, b.shownIn labels]
  | .set xs => if xs.isEmpty then "set()" else enclosed "\x7b" "\x7d" (shownEach labels xs)
  | .mapping entries => enclosed "\x7b" "\x7d" (shownEntries labels entries)
  | .loop label d => if labels.contains label then ellipsis d else d.shownIn (label :: labels)

def shownEach (labels : List Nat) : List Datum → List String
  | [] => []
  | x :: xs => x.shownIn labels :: shownEach labels xs

def shownEntries (labels : List Nat) : List (Datum × Datum) → List String
  | [] => []
  | (k, v) :: rest => (k.shownIn labels ++ ": " ++ v.shownIn labels) :: shownEntries labels rest

end

/-- A value as messages show it: texts are quoted. -/
def shown (d : Datum) : String := d.shownIn []

/-- A value on its own, as text. -/
def plain : Datum → String
  | .scalar s => s.plain
  | .date d => d.text
  | .moment m => m.text " "
  | d => d.shown

mutual

/-- Whether a value holds a whole number of more digits than are written, inside collections with
some labels. -/
def isTooLongIn (labels : List Nat) : Datum → Bool
  | .scalar s => s.isTooLong
  | .list xs | .set xs => isTooLongEach labels xs
  | .pair a b => a.isTooLongIn labels || b.isTooLongIn labels
  | .mapping entries => isTooLongEntries labels entries
  | .loop label d => !labels.contains label && d.isTooLongIn (label :: labels)
  | .date _ | .moment _ | .bytes _ => false

def isTooLongEach (labels : List Nat) : List Datum → Bool
  | [] => false
  | x :: xs => x.isTooLongIn labels || isTooLongEach labels xs

def isTooLongEntries (labels : List Nat) : List (Datum × Datum) → Bool
  | [] => false
  | (k, v) :: rest =>
    k.isTooLongIn labels || v.isTooLongIn labels || isTooLongEntries labels rest

end

/-- A value on its own, as text; a fault if it holds a whole number that is too long to write. -/
def write (d : Datum) : Except Fault String :=
  if d.isTooLongIn [] then .error .tooLongToWrite else .ok d.plain

/-! ### What a value stands for -/

/-- Whether a value counts as true: not null, not zero, and not an empty text or collection. -/
def isTruthy (d : Datum) : Bool :=
  match d.bare with
  | .scalar s => s.isTruthy
  | .bytes bs => !bs.isEmpty
  | .list xs | .set xs => !xs.isEmpty
  | .mapping entries => !entries.isEmpty
  | _ => true

/-- The number that a value is, where no other value will do. -/
def toNumber : Datum → Except Fault Number
  | .scalar s => s.toNumber
  | _ => .error .wrongKind

/-- The text that bytes are read as when they stand for a number.  A byte beyond ASCII is part of
no number. -/
def numeralOf (bs : List UInt8) : String :=
  if bs.all (· < 128) then String.ofList (byteText bs) else "?"

/-- The float that a value stands for; texts and bytes are read. -/
def toFloat : Datum → Except Fault Float
  | .scalar s => s.toFloat
  | .bytes bs => Scalar.readFloat (numeralOf bs) (bytesShown bs)
  | _ => .error .wrongKind

/-- The whole number that a value stands for; texts and bytes are read and floats are cut. -/
def toInt : Datum → Except Fault Int
  | .scalar s => s.toInt
  | .bytes bs => Scalar.readInt (numeralOf bs) (bytesShown bs)
  | _ => .error .wrongKind

/-- Whether a value is below zero, where only numbers will do. -/
def isNegative (d : Datum) : Except Fault Bool := do return (← d.toNumber).isNegative

def toScalar : Datum → Except Fault Scalar
  | .scalar s => .ok s
  | _ => .error .wrongKind

/-- The text that a value is, where something is asked of a text. -/
def toText : Datum → Except Fault String
  | .text s => .ok s
  | _ => .error .noSuchMember

/-- The sum of two values: of numbers their sum, of texts or lists the two joined. -/
def plus : Datum → Datum → Except Fault Datum
  | .text s, .text t => .ok (.text (s ++ t))
  | .list xs, .list ys => .ok (.list (xs ++ ys))
  | a, b => do return .scalar (← (← a.toNumber).add (← b.toNumber)).toScalar

def minus (a b : Datum) : Except Fault Datum := do
  return .scalar (← (← a.toNumber).sub (← b.toNumber)).toScalar

end Datum

end TouchProbe
