import TouchProbe.Datum

/-! # JSON texts

Values as JSON on one line, in ASCII alone.  Values that JSON has no form for are written as
texts.
-/

namespace TouchProbe

namespace Json

def floatStyle : Number.Style := ⟨0, false, "NaN", "Infinity"⟩

/-- The escape of a sixteen-bit unit. -/
def unitEscape (n : Nat) : List Char := '\\' :: 'u' :: Text.hexDigits 4 n

/-- A character inside a text.  One beyond the sixteen-bit units is written as two of them. -/
def charEscape (c : Char) : List Char :=
  let n := Text.codeOf c
  if c = '"' || c = '\\' then ['\\', c]
  else if c = '\n' then ['\\', 'n']
  else if c = '\r' then ['\\', 'r']
  else if c = '\t' then ['\\', 't']
  else if n = 12 then ['\\', 'f']
  else if n = 8 then ['\\', 'b']
  else if 32 ≤ n && n < 127 then [c]
  else if n < 0x10000 then unitEscape n
  else
    let m := n - 0x10000
    unitEscape (0xD800 + m / 0x400) ++ unitEscape (0xDC00 + m % 0x400)

def quoted (s : String) : String :=
  String.ofList ('"' :: s.toList.flatMap charEscape ++ ['"'])

/-- A scalar that is no text. -/
def bareScalar : Scalar → String
  | .null => "null"
  | .bool b => if b then "true" else "false"
  | .int n => toString n
  | .float x => floatStyle.write x
  | .text s => s

def scalar : Scalar → String
  | .text s => quoted s
  | s => bareScalar s

/-- A key, which is a text in any case. -/
def key : Datum → Except Fault String
  | .scalar s => .ok (quoted (bareScalar s))
  | _ => .error .wrongKind

mutual

def write : Datum → Except Fault String
  | .scalar s => .ok (scalar s)
  | .list xs => do return Datum.enclosed "[" "]" (← writeEach xs)
  | .pair a b => do return Datum.enclosed "[" "]" [← write a, ← write b]
  | .mapping entries => do return Datum.enclosed "\x7b" "\x7d" (← writeEntries entries)
  | .date d => .ok (quoted d.text)
  | .moment m => .ok (quoted (m.text " "))
  | .bytes bs => .ok (quoted (Datum.bytesShown bs))
  | .set xs => .ok (quoted (Datum.set xs).shown)
  | .loop _ d => write d

def writeEach : List Datum → Except Fault (List String)
  | [] => .ok []
  | x :: xs => do return (← write x) :: (← writeEach xs)

def writeEntries : List (Datum × Datum) → Except Fault (List String)
  | [] => .ok []
  | (k, v) :: rest => do return ((← key k) ++ ": " ++ (← write v)) :: (← writeEntries rest)

end

end Json

end TouchProbe
