import TouchProbe.Text.Half
import TouchProbe.Text.Printable

/-! # Quoted text

How a text is shown inside a message: between single quotes, or between double quotes when it
holds a single quote and no double one.  The quote that is used, the backslash and every
character that is not printable are escaped.
-/

namespace TouchProbe.Text

/-- The digits of a number in base sixteen, in lower case, padded with zeros to a width. -/
def hexDigits (width n : Nat) : List Char :=
  let ds := Nat.toDigits 16 n
  List.replicate (width - ds.length) '0' ++ ds

/-- The escape of a character, or of the half that it stands for, by its code, as short as its
code allows. -/
def escapeCode (c : Char) : List Char :=
  let n := codeOf c
  if n < 0x100 then '\\' :: 'x' :: hexDigits 2 n
  else if n < 0x10000 then '\\' :: 'u' :: hexDigits 4 n
  else '\\' :: 'U' :: hexDigits 8 n

def quoteChar (mark c : Char) : List Char :=
  if c = mark || c = '\\' then ['\\', c]
  else if c = '\n' then ['\\', 'n']
  else if c = '\r' then ['\\', 'r']
  else if c = '\t' then ['\\', 't']
  else if isPrintable c then [c]
  else escapeCode c

def quoteMark (s : List Char) : Char :=
  if s.contains '\'' && !s.contains '"' then '"' else '\''

def quote (s : String) : String :=
  let cs := s.toList
  let mark := quoteMark cs
  String.ofList (mark :: cs.flatMap (quoteChar mark) ++ [mark])

example : quote "it's" = "\"it's\"" := by decide +kernel

example : quote "a\"'b\x07" = "'a\"\\'b\\x07'" := by decide +kernel

end TouchProbe.Text
