import TouchProbe.Text.Utf8

/-! # Encodings

Texts as bytes.  A writer names the first characters that an encoding lacks: those beyond its
last code, those that its page does not have, or lone halves, which no encoding of Unicode has.
-/

namespace TouchProbe.Text

/-- The order of the bytes of a code.  `marked` is low byte first, after a mark that tells it. -/
inductive ByteOrder where
  | marked
  | low
  | high
  deriving DecidableEq, Repr

/-- The pages of characters that encodings of one byte have beyond the ASCII ones. -/
inductive Page where
  | cp437
  | cp1252
  | latin9
  deriving DecidableEq, Repr

inductive Encoding where
  | utf8
  /-- UTF-8 after a mark that tells it. -/
  | markedUtf8
  | utf16 (order : ByteOrder)
  | utf32 (order : ByteOrder)
  | ascii
  | latin1
  | page (p : Page)
  deriving DecidableEq, Repr

/-- The first characters of a text that an encoding lacks. -/
structure EncodeFault where
  encoding : Encoding
  /-- The characters at fault; never empty. -/
  chars : List Char
  /-- The position of the first of them. -/
  position : Nat
  deriving DecidableEq, Repr

/-! ### Pages -/

/-- The code points of the bytes from 128 on in code page 437. -/
def codes437 : List Nat := [
  0xC7, 0xFC, 0xE9, 0xE2, 0xE4, 0xE0, 0xE5, 0xE7, 0xEA, 0xEB, 0xE8, 0xEF, 0xEE, 0xEC, 0xC4, 0xC5,
  0xC9, 0xE6, 0xC6, 0xF4, 0xF6, 0xF2, 0xFB, 0xF9, 0xFF, 0xD6, 0xDC, 0xA2, 0xA3, 0xA5, 0x20A7,
  0x192, 0xE1, 0xED, 0xF3, 0xFA, 0xF1, 0xD1, 0xAA, 0xBA, 0xBF, 0x2310, 0xAC, 0xBD, 0xBC, 0xA1,
  0xAB, 0xBB, 0x2591, 0x2592, 0x2593, 0x2502, 0x2524, 0x2561, 0x2562, 0x2556, 0x2555, 0x2563,
  0x2551, 0x2557, 0x255D, 0x255C, 0x255B, 0x2510, 0x2514, 0x2534, 0x252C, 0x251C, 0x2500, 0x253C,
  0x255E, 0x255F, 0x255A, 0x2554, 0x2569, 0x2566, 0x2560, 0x2550, 0x256C, 0x2567, 0x2568, 0x2564,
  0x2565, 0x2559, 0x2558, 0x2552, 0x2553, 0x256B, 0x256A, 0x2518, 0x250C, 0x2588, 0x2584, 0x258C,
  0x2590, 0x2580, 0x3B1, 0xDF, 0x393, 0x3C0, 0x3A3, 0x3C3, 0xB5, 0x3C4, 0x3A6, 0x398, 0x3A9,
  0x3B4, 0x221E, 0x3C6, 0x3B5, 0x2229, 0x2261, 0xB1, 0x2265, 0x2264, 0x2320, 0x2321, 0xF7, 0x2248,
  0xB0, 0x2219, 0xB7, 0x221A, 0x207F, 0xB2, 0x25A0, 0xA0]

/-- The code points of the bytes from 128 on in code page 1252; zero for the bytes that have
none. -/
def codes1252 : List Nat := [
  0x20AC, 0, 0x201A, 0x192, 0x201E, 0x2026, 0x2020, 0x2021, 0x2C6, 0x2030, 0x160, 0x2039, 0x152,
  0, 0x17D, 0, 0, 0x2018, 0x2019, 0x201C, 0x201D, 0x2022, 0x2013, 0x2014, 0x2DC, 0x2122, 0x161,
  0x203A, 0x153, 0, 0x17E, 0x178, 0xA0, 0xA1, 0xA2, 0xA3, 0xA4, 0xA5, 0xA6, 0xA7, 0xA8, 0xA9,
  0xAA, 0xAB, 0xAC, 0xAD, 0xAE, 0xAF, 0xB0, 0xB1, 0xB2, 0xB3, 0xB4, 0xB5, 0xB6, 0xB7, 0xB8, 0xB9,
  0xBA, 0xBB, 0xBC, 0xBD, 0xBE, 0xBF, 0xC0, 0xC1, 0xC2, 0xC3, 0xC4, 0xC5, 0xC6, 0xC7, 0xC8, 0xC9,
  0xCA, 0xCB, 0xCC, 0xCD, 0xCE, 0xCF, 0xD0, 0xD1, 0xD2, 0xD3, 0xD4, 0xD5, 0xD6, 0xD7, 0xD8, 0xD9,
  0xDA, 0xDB, 0xDC, 0xDD, 0xDE, 0xDF, 0xE0, 0xE1, 0xE2, 0xE3, 0xE4, 0xE5, 0xE6, 0xE7, 0xE8, 0xE9,
  0xEA, 0xEB, 0xEC, 0xED, 0xEE, 0xEF, 0xF0, 0xF1, 0xF2, 0xF3, 0xF4, 0xF5, 0xF6, 0xF7, 0xF8, 0xF9,
  0xFA, 0xFB, 0xFC, 0xFD, 0xFE, 0xFF]

/-- The code points of the bytes from 128 on in the ninth Latin page. -/
def codesLatin9 : List Nat := [
  0x80, 0x81, 0x82, 0x83, 0x84, 0x85, 0x86, 0x87, 0x88, 0x89, 0x8A, 0x8B, 0x8C, 0x8D, 0x8E, 0x8F,
  0x90, 0x91, 0x92, 0x93, 0x94, 0x95, 0x96, 0x97, 0x98, 0x99, 0x9A, 0x9B, 0x9C, 0x9D, 0x9E, 0x9F,
  0xA0, 0xA1, 0xA2, 0xA3, 0x20AC, 0xA5, 0x160, 0xA7, 0x161, 0xA9, 0xAA, 0xAB, 0xAC, 0xAD, 0xAE,
  0xAF, 0xB0, 0xB1, 0xB2, 0xB3, 0x17D, 0xB5, 0xB6, 0xB7, 0x17E, 0xB9, 0xBA, 0xBB, 0x152, 0x153,
  0x178, 0xBF, 0xC0, 0xC1, 0xC2, 0xC3, 0xC4, 0xC5, 0xC6, 0xC7, 0xC8, 0xC9, 0xCA, 0xCB, 0xCC, 0xCD,
  0xCE, 0xCF, 0xD0, 0xD1, 0xD2, 0xD3, 0xD4, 0xD5, 0xD6, 0xD7, 0xD8, 0xD9, 0xDA, 0xDB, 0xDC, 0xDD,
  0xDE, 0xDF, 0xE0, 0xE1, 0xE2, 0xE3, 0xE4, 0xE5, 0xE6, 0xE7, 0xE8, 0xE9, 0xEA, 0xEB, 0xEC, 0xED,
  0xEE, 0xEF, 0xF0, 0xF1, 0xF2, 0xF3, 0xF4, 0xF5, 0xF6, 0xF7, 0xF8, 0xF9, 0xFA, 0xFB, 0xFC, 0xFD,
  0xFE, 0xFF]

def Page.codes : Page → List Nat
  | .cp437 => codes437
  | .cp1252 => codes1252
  | .latin9 => codesLatin9

def Page.byte? (p : Page) (c : Char) : Option UInt8 :=
  if c.toNat < 128 then some (UInt8.ofNat c.toNat)
  else (p.codes.idxOf? c.toNat).map fun n => UInt8.ofNat (128 + n)

/-! ### Bytes -/

/-- The bytes of a code, so many of them, low byte first. -/
def lowBytes : Nat → Nat → List UInt8
  | 0, _ => []
  | count + 1, n => UInt8.ofNat (n % 256) :: lowBytes count (n / 256)

def orderedBytes (order : ByteOrder) (count n : Nat) : List UInt8 :=
  match order with
  | .high => (lowBytes count n).reverse
  | .marked | .low => lowBytes count n

def units16 (c : Char) : List Nat :=
  if c.toNat < 0x10000 then [c.toNat]
  else [0xD800 + (c.toNat - 0x10000) / 0x400, 0xDC00 + (c.toNat - 0x10000) % 0x400]

/-- The codes of a text in bytes, so many for each code, after the mark of their order. -/
def orderedText (order : ByteOrder) (count : Nat) (codes : List Nat) : List UInt8 :=
  (if order = .marked then 0xFEFF :: codes else codes).flatMap (orderedBytes order count)

namespace Encoding

def has (e : Encoding) (c : Char) : Bool :=
  match e with
  | .utf8 | .markedUtf8 | .utf16 _ | .utf32 _ => (half? c).isNone
  | .ascii => c.toNat < 128
  | .latin1 => c.toNat < 256
  | .page p => (p.byte? c).isSome

/-- Whether a fault of an encoding is that of a single character, even where others follow. -/
def faultsAlone : Encoding → Bool
  | .utf16 _ | .utf32 _ => true
  | _ => false

def name : Encoding → String
  | .utf8 | .markedUtf8 => "utf-8"
  | .utf16 .marked => "utf-16"
  | .utf16 .low => "utf-16-le"
  | .utf16 .high => "utf-16-be"
  | .utf32 .marked => "utf-32"
  | .utf32 .low => "utf-32-le"
  | .utf32 .high => "utf-32-be"
  | .ascii => "ascii"
  | .latin1 => "latin-1"
  | .page _ => "charmap"

def lack : Encoding → String
  | .utf8 | .markedUtf8 | .utf16 _ | .utf32 _ => "surrogates not allowed"
  | .ascii => "ordinal not in range(128)"
  | .latin1 => "ordinal not in range(256)"
  | .page _ => "character maps to <undefined>"

/-- The bytes of a text all of whose characters an encoding has. -/
def bytes (e : Encoding) (s : String) : List UInt8 :=
  match e with
  | .utf8 => s.toUTF8.toList
  | .markedUtf8 => [0xEF, 0xBB, 0xBF] ++ s.toUTF8.toList
  | .utf16 order => orderedText order 2 (s.toList.flatMap units16)
  | .utf32 order => orderedText order 4 (s.toList.map Char.toNat)
  | .ascii | .latin1 => s.toList.map fun c => UInt8.ofNat c.toNat
  | .page p => s.toList.filterMap p.byte?

end Encoding

/-- The first characters of a text that fail a test, with their position. -/
def firstLacking (has : Char → Bool) (position : Nat) : List Char → Option (List Char × Nat)
  | [] => none
  | c :: s =>
    if has c then firstLacking has (position + 1) s
    else some (c :: s.takeWhile fun c => !has c, position)

def encode (e : Encoding) (s : String) : Except EncodeFault (List UInt8) :=
  match firstLacking e.has 0 s.toList with
  | some (cs, position) => .error ⟨e, if e.faultsAlone then cs.take 1 else cs, position⟩
  | none => .ok (e.bytes s)

def EncodeFault.message (f : EncodeFault) : String :=
  let place :=
    match f.chars with
    | [c] => s!"character '{String.ofList (escapeCode c)}' in position {f.position}"
    | cs => s!"characters in position {f.position}-{lastPosition f.position cs.length}"
  s!"'{f.encoding.name}' codec can't encode {place}: {f.encoding.lack}"

/-! ### Names -/

/-- The letters, digits and points of a name in lower case, with one underscore for whatever
stands between them. -/
def plainName (afterGap isFirst : Bool) : List Char → List Char
  | [] => []
  | c :: s =>
    if c.isAlphanum || c = '.' then
      (if afterGap && !isFirst then ['_'] else []) ++ c.toLower :: plainName false false s
    else plainName true isFirst s

/-- The names of the encodings: the first of each with its points as they are, and others in which
a point may stand for an underscore. -/
def encodingNames : List (Encoding × List String) := [
  (.utf8, ["utf_8", "utf8", "u8", "utf", "utf8_ucs2", "utf8_ucs4", "cp65001"]),
  (.markedUtf8, ["utf_8_sig"]),
  (.utf16 .marked, ["utf_16", "utf16", "u16"]),
  (.utf16 .low, ["utf_16_le", "utf_16le", "unicodelittleunmarked"]),
  (.utf16 .high, ["utf_16_be", "utf_16be", "unicodebigunmarked"]),
  (.utf32 .marked, ["utf_32", "utf32", "u32"]),
  (.utf32 .low, ["utf_32_le", "utf_32le"]),
  (.utf32 .high, ["utf_32_be", "utf_32be"]),
  (.ascii, ["ascii", "646", "ansi_x3.4_1968", "ansi_x3_4_1968", "ansi_x3.4_1986", "cp367",
    "csascii", "ibm367", "iso646_us", "iso_646.irv_1991", "iso_ir_6", "us", "us_ascii"]),
  (.latin1, ["latin_1", "8859", "cp819", "csisolatin1", "ibm819", "iso8859", "iso8859_1",
    "iso_8859_1", "iso_8859_1_1987", "iso_ir_100", "l1", "latin", "latin1"]),
  (.page .cp437, ["cp437", "437", "cspc8codepage437", "ibm437"]),
  (.page .cp1252, ["cp1252", "1252", "windows_1252"]),
  (.page .latin9, ["iso8859_15", "iso_8859_15", "l9", "latin9"])]

def Encoding.ofName? (s : String) : Option Encoding :=
  let chars := plainName false true s.toList
  let name := String.ofList chars
  let other := String.ofList (chars.map fun c => if c = '.' then '_' else c)
  let isNamed (names : List String) : Bool := names.contains name || (names.drop 1).contains other
  (encodingNames.find? fun e => isNamed e.2).map (·.1)

/-- Names of ways to write bytes that are no ways to write texts. -/
def byteCodings : List String := [
  "base64", "base_64", "base64_codec", "bz2", "bz2_codec", "hex", "hex_codec", "quopri",
  "quoted_printable", "quotedprintable", "quopri_codec", "rot13", "rot_13", "uu", "uu_codec",
  "zip", "zlib", "zlib_codec"]

def isByteCoding (s : String) : Bool :=
  byteCodings.contains (String.ofList (plainName false true s.toList))

end TouchProbe.Text
