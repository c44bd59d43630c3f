import TouchProbe.Number.Literal
import TouchProbe.Yaml.Token

/-! # Names, tags and directives

The tokens that are made of words: aliases and anchors, tags, and the directives before a
document.
-/

namespace TouchProbe.Yaml

def isNameChar (c : Char) : Bool := c.isAlphanum || c = '-' || c = '_'

/-- Whether what follows may follow a name. -/
def endsName (s : List Char) : Bool :=
  atGap s || s.head?.any fun c => "?:,]%@".toList.contains c || c.toNat = 0x7D || c.toNat = 0x60

/-- The name of an alias or an anchor, at the mark before it. -/
def anchorName (c : Cursor) : Reads (String × Cursor) :=
  let (name, c) := c.next.span isNameChar
  if name.isEmpty || !endsName c.rest then .error .illFormed
  else .ok (String.ofList name, c)

/-! ### Tags -/

def isTagChar (c : Char) : Bool := c.isAlphanum || "-;/?:@&=+$,_.!~*'()[]%".toList.contains c

/-- The byte that two digits of base sixteen write, and the cursor after them. -/
def escapedByte (c : Cursor) : Reads (UInt8 × Cursor) :=
  let digits := c.rest.take 2
  match Number.inBase? 16 digits with
  | some n => if digits.length = 2 then .ok (UInt8.ofNat n, c.skip 2) else .error .illFormed
  | none => .error .illFormed

/-- The bytes of a run of escapes, each a percent sign and two digits. -/
def escapedBytes (fuel : Nat) (c : Cursor) : Reads (List UInt8 × Cursor) :=
  match fuel with
  | 0 => .ok ([], c)
  | fuel + 1 =>
    if c.sees '%' then do
      let (b, c) ← escapedByte c.next
      let (bs, c) ← escapedBytes fuel c
      return (b :: bs, c)
    else .ok ([], c)

def tagChars (fuel : Nat) (c : Cursor) : Reads (List Char × Cursor) :=
  match fuel with
  | 0 => .ok ([], c)
  | fuel + 1 => do
    let (plain, c) := c.span fun x => isTagChar x && x != '%'
    if !c.sees '%' then return (plain, c)
    let (bytes, c) ← escapedBytes fuel c
    match Text.decode bytes with
    | .error _ => throw .illFormed
    | .ok s =>
      let (more, c) ← tagChars fuel c
      return (plain ++ s.toList ++ more, c)

/-- The text of a tag; it must not be empty. -/
def tagText (c : Cursor) : Reads (String × Cursor) := do
  let (cs, after) ← tagChars (c.rest.length + 1) c
  if cs.isEmpty then throw .illFormed
  return (String.ofList cs, after)

/-- A tag handle: a mark, or a name between two marks. -/
def tagHandle (c : Cursor) : Reads (String × Cursor) :=
  if !c.sees '!' then .error .illFormed
  else
    let c := c.next
    if c.sees ' ' then .ok ("!", c)
    else
      let (name, c) := c.span isNameChar
      if c.sees '!' then .ok ("!" ++ String.ofList name ++ "!", c.next) else .error .illFormed

/-- Whether a tag has a handle with a name: a second mark before the next space. -/
def hasHandle (s : List Char) : Bool :=
  match s with
  | [] => false
  | c :: r => if c = ' ' || isBreak c then false else c = '!' || hasHandle r

def tagToken (c : Cursor) : Reads (Token × Cursor) := do
  let after := c.next
  let (token, c) ←
    if after.sees '<' then do
      let (suffix, c) ← tagText after.next
      if !c.sees '>' then throw .illFormed
      pure (Token.tag none suffix, c.next)
    else if atGap after.rest then pure (Token.tag none "!", after)
    else do
      let (handle, c) ← if hasHandle after.rest then tagHandle c else pure ("!", after)
      let (suffix, c) ← tagText c
      pure (Token.tag (some handle) suffix, c)
  if !atSpace c.rest then throw .illFormed
  return (token, c)

/-! ### Directives -/

/-- The cursor on the next line, if only a comment stands before it. -/
def finishLine (c : Cursor) : Reads Cursor :=
  let c := c.skipSpaces
  let c := if c.sees '#' then c.toLineEnd else c
  if atLineEnd c.rest then .ok c.skipBreak else .error .illFormed

def versionNumber (c : Cursor) : Reads (Nat × Cursor) :=
  let (digits, c) := c.span Char.isDigit
  if digits.isEmpty then .error .illFormed
  else .ok (Text.ofDigits (digits.map fun d => d.toNat - 48), c)

def versionDirective (c : Cursor) : Reads (Directive × Cursor) := do
  let (major, c) ← versionNumber c.skipSpaces
  if !c.sees '.' then throw .illFormed
  let (_, c) ← versionNumber c.next
  if !atSpace c.rest then throw .illFormed
  return (.version major, c)

def tagDirective (c : Cursor) : Reads (Directive × Cursor) := do
  let (handle, c) ← tagHandle c.skipSpaces
  if !c.sees ' ' then throw .illFormed
  let (lead, c) ← tagText c.skipSpaces
  if !atSpace c.rest then throw .illFormed
  return (.tag handle lead, c)

def directiveToken (c : Cursor) : Reads (Token × Cursor) := do
  let (name, c) := c.next.span isNameChar
  if name.isEmpty || !atSpace c.rest then throw .illFormed
  let (d, c) ←
    if name = "YAML".toList then versionDirective c
    else if name = "TAG".toList then tagDirective c
    else pure (.other, c.toLineEnd)
  return (.directive d, ← finishLine c)

end TouchProbe.Yaml
