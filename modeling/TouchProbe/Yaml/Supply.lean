import TouchProbe.Yaml.Token

/-! # Texts that are read bit by bit

The bytes of a file arrive in pieces, and their characters are taken in pages.  The first two pages
are taken at once, every other page only when a reader comes to the end of those before it.  So of
two things that are wrong with a text the later one may never be found.

`Supply` is what a reader can look at: characters, and what stops it where they end.
-/

namespace TouchProbe.Yaml

def pieceSize : Nat := 8192

def pageSize : Nat := 4096

/-- The number of pages that are taken at once. -/
def firstPages : Nat := 2

/-- What a reader of a text can look at. -/
structure Supply where
  chars : List Char
  /-- What stops a reader at the end of them; nothing at the end of the text. -/
  stop : Option Problem := none

namespace Supply

/-- The pages before the one in which a character stands, and what stops a reader there.  If it
is one of the first pages a reader cannot even begin. -/
def cutAt (chars : List Char) (index : Nat) (stop : Problem) : Supply :=
  let pages := index / pageSize
  ⟨if pages < firstPages then [] else chars.take (pages * pageSize), some stop⟩

/-- What can be looked at of the text of some bytes.  Line ends of any kind end lines. -/
def ofBytes (bytes : List UInt8) : Supply :=
  let (cs, fault) := Text.decodePieces pieceSize bytes
  let chars := Text.universalNewlines cs
  let decoded : Supply := match fault with
    | none => { chars }
    | some f => cutAt chars chars.length (.fault (.undecodable f))
  match decoded.chars.findIdx? fun c => !isAllowed c with
  | none => decoded
  | some n => cutAt decoded.chars n .illFormed

end Supply

end TouchProbe.Yaml
