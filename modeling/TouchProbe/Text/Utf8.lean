import TouchProbe.Text.Quoted

/-! # Reading UTF-8

Texts from bytes.  A reader names the first bytes that are no text and says why.

The three reasons of `DecodeReason` follow the shape of UTF-8: a byte that starts no character,
a byte that should continue one and does not, and a text that ends inside a character.  The
bytes at fault are those of the character that were good, or the whole rest at the end of the
text.

Bytes may arrive in pieces.  Then the position of a fault counts only the bytes that are at hand
when it shows.
-/

namespace TouchProbe.Text

inductive DecodeReason where
  | badStart
  | badContinuation
  | endOfData
  deriving DecidableEq, Repr

/-- The first bytes of an input that are no UTF-8 text. -/
structure DecodeFault where
  /-- The bytes at fault; never empty. -/
  bytes : List UInt8
  /-- The position of the first of them. -/
  position : Nat
  reason : DecodeReason
  deriving DecidableEq, Repr

def isContinuation (b : UInt8) : Bool := 0x80 ≤ b && b ≤ 0xBF

/-- The number of bytes of the character that a byte starts, or zero. -/
def charBytes (b : UInt8) : Nat :=
  if b < 0x80 then 1
  else if b < 0xC2 then 0
  else if b < 0xE0 then 2
  else if b < 0xF0 then 3
  else if b < 0xF5 then 4
  else 0

/-- Whether a byte may come second after a first byte: it continues the character, and the
character is neither written too long, nor a surrogate, nor beyond the last code point. -/
def isSecond (first second : UInt8) : Bool :=
  isContinuation second &&
    !(first == 0xE0 && second < 0xA0) && !(first == 0xED && 0xA0 ≤ second) &&
    !(first == 0xF0 && second < 0x90) && !(first == 0xF4 && 0x90 ≤ second)

/-- The payload of a continuation byte joined to the code so far. -/
def joinCode (code : Nat) (b : UInt8) : Nat := code * 64 + (b.toNat - 0x80)

/-- The character that starts at the head of the bytes, and its number of bytes; or how many
bytes are at fault (all of them, for `endOfData`) and why. -/
def decodeChar : List UInt8 → Except (Nat × DecodeReason) (Char × Nat)
  | [] => .error (0, .endOfData)
  | b :: rest =>
    match charBytes b, rest with
    | 1, _ => .ok (Char.ofNat b.toNat, 1)
    | 2, [] => .error (1, .endOfData)
    | 2, c :: _ =>
      if isSecond b c then .ok (Char.ofNat (joinCode (b.toNat - 0xC0) c), 2)
      else .error (1, .badContinuation)
    | 3, [] => .error (1, .endOfData)
    | 3, [c] => if isSecond b c then .error (2, .endOfData) else .error (1, .badContinuation)
    | 3, c :: d :: _ =>
      if !isSecond b c then .error (1, .badContinuation)
      else if !isContinuation d then .error (2, .badContinuation)
      else .ok (Char.ofNat (joinCode (joinCode (b.toNat - 0xE0) c) d), 3)
    | 4, [] => .error (1, .endOfData)
    | 4, [c] => if isSecond b c then .error (2, .endOfData) else .error (1, .badContinuation)
    | 4, [c, d] =>
      if !isSecond b c then .error (1, .badContinuation)
      else if !isContinuation d then .error (2, .badContinuation)
      else .error (3, .endOfData)
    | 4, c :: d :: e :: _ =>
      if !isSecond b c then .error (1, .badContinuation)
      else if !isContinuation d then .error (2, .badContinuation)
      else if !isContinuation e then .error (3, .badContinuation)
      else .ok (Char.ofNat (joinCode (joinCode (joinCode (b.toNat - 0xF0) c) d) e), 4)
    | _, _ => .error (1, .badStart)

/-- The characters of UTF-8 bytes; `skip` bytes of the character before are still to pass. -/
def decodeFrom (position skip : Nat) : List UInt8 → Except DecodeFault (List Char)
  | [] => .ok []
  | b :: rest =>
    match skip with
    | skip + 1 => decodeFrom (position + 1) skip rest
    | 0 =>
      match decodeChar (b :: rest) with
      | .ok (c, size) => (decodeFrom (position + 1) (size - 1) rest).map (c :: ·)
      | .error (count, reason) => .error ⟨(b :: rest).take count, position, reason⟩

def decode (bytes : List UInt8) : Except DecodeFault String :=
  (decodeFrom 0 0 bytes).map String.ofList

/-! ### Bytes in pieces -/

/-- The position of the first byte of the character that a byte is a part of. -/
def charStart (bytes : List UInt8) : Nat → Nat
  | 0 => 0
  | n + 1 => if isContinuation (bytes.getD (n + 1) 0) then charStart bytes n else n + 1

/-- The position of the byte with which a fault shows. -/
def DecodeFault.shownAt (f : DecodeFault) : Nat :=
  match f.reason with
  | .badStart => f.position
  | .badContinuation => f.position + f.bytes.length
  | .endOfData => f.position

/-- The position of the first byte that is at hand when a fault shows, if bytes arrive in pieces of
some size: the beginning of the piece, or of the character that the piece before left unfinished.
At the end of all pieces only an unfinished character is at hand. -/
def DecodeFault.atHand (f : DecodeFault) (size : Nat) (bytes : List UInt8) : Nat :=
  let piece := f.shownAt / size * size
  if f.reason = .endOfData || f.position ≤ piece then f.position else charStart bytes piece

/-- The characters of bytes that arrive in pieces of some size.  If there is a fault, those that
were read before its piece, and the fault with its position among the bytes at hand. -/
def decodePieces (size : Nat) (bytes : List UInt8) : List Char × Option DecodeFault :=
  match decodeFrom 0 0 bytes with
  | .ok cs => (cs, none)
  | .error f =>
    let start := f.atHand size bytes
    ((decodeFrom 0 0 (bytes.take start)).toOption.getD [],
      some { f with position := f.position - start })

/-! ### Line ends -/

/-- A text with every line end written as a single newline. -/
def universalNewlines : List Char → List Char
  | '\r' :: '\n' :: s => '\n' :: universalNewlines s
  | '\r' :: s => '\n' :: universalNewlines s
  | c :: s => c :: universalNewlines s
  | [] => []

/-- The last position that a run of faults covers. -/
def lastPosition (position count : Nat) : Nat := position + count - 1

def DecodeReason.message : DecodeReason → String
  | .badStart => "invalid start byte"
  | .badContinuation => "invalid continuation byte"
  | .endOfData => "unexpected end of data"

def DecodeFault.message (f : DecodeFault) : String :=
  let place :=
    match f.bytes with
    | [b] => s!"byte 0x{String.ofList (hexDigits 2 b.toNat)} in position {f.position}"
    | bs => s!"bytes in position {f.position}-{lastPosition f.position bs.length}"
  s!"'utf-8' codec can't decode {place}: {f.reason.message}"

end TouchProbe.Text
