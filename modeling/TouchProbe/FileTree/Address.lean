import TouchProbe.Fault
import TouchProbe.Text.Blank

/-! # Addresses

Where a file or a folder is: the names of the folders on the way to it, and its own.  Names of
one point and empty names are left out; two points go back to the folder around.
-/

namespace TouchProbe

/-- The place of a file or a folder. -/
structure Address where
  /-- Whether it starts at the root of all files. -/
  rooted : Bool
  names : List String
  deriving DecidableEq, Repr

namespace Address

def parse (s : String) : Address where
  rooted := s.startsWith "/"
  names := ((Text.splitOn '/' s.toList).map String.ofList).filter fun n => n != "" && n != "."

def text (a : Address) : String :=
  let body := "/".intercalate a.names
  if a.rooted then "/" ++ body else if a.names.isEmpty then "." else body

/-- Whether a half stands for a byte of a name that is no text. -/
def isByteHalf (n : Nat) : Bool := 0xDC80 ≤ n && n < 0xDD00

/-- Why no file can have an address: its text cannot be written as bytes, or holds the character
that ends names. -/
def fault? (a : Address) : Option Fault :=
  let has (c : Char) : Bool := (Text.half? c).all isByteHalf
  let s := a.text.toList
  match Text.firstLacking has 0 s with
  | some (chars, position) => some (.unencodable ⟨.utf8, chars, position⟩)
  | none => if s.contains '\x00' then some .nullInAddress else none

def parent (a : Address) : Address := { a with names := a.names.dropLast }

/-- The names that lead to an address without going back. -/
def direct (names : List String) : List String :=
  (names.foldl (fun st n => if n = ".." then st.drop 1 else n :: st) []).reverse

end Address

end TouchProbe
