import TouchProbe.Yaml.Graph
import TouchProbe.Yaml.Implicit
import TouchProbe.Yaml.Tokens

/-! # Reading nodes

The graph of a document from its tokens.  An alias is the node that has its anchor, so two parts of
a document may be one node, and a collection may be a part of itself.

The tokens of a text may break off at a fault.  A document is refused for the first thing that is
wrong with it, so the fault counts only once the reader has come to it.
-/

namespace TouchProbe.Yaml

/-- The tag handles that every document has. -/
def usualHandles : List (String × String) := [("!", "!"), ("!!", tagLead)]

/-- The state of the reader of nodes. -/
structure Compose where
  tokens : List Token
  /-- The number of tokens before them. -/
  taken : Nat := 0
  /-- The fault at which the tokens break off. -/
  breakOff : Option BreakOff
  handles : List (String × String)
  /-- The nodes so far. -/
  graph : Graph := #[]
  /-- The numbers of nodes by anchor. -/
  anchors : List (String × Nat) := []

abbrev Composes (α : Type) := StateT Compose (Except Problem) α

/-- Fails: the text is no YAML text. -/
def refuse {α : Type} : Composes α := throw .illFormed

/-- The next token; after the last one the end of the text. -/
def peek : Composes Token := do
  let s ← get
  if let some b := s.breakOff then
    if b.due ≤ s.taken then throw b.problem
  return s.tokens.head?.getD .streamEnd

def pass : Composes Unit :=
  modify fun s => { s with tokens := s.tokens.drop 1, taken := s.taken + 1 }

def add (n : Node) : Composes Nat :=
  modifyGet fun s => (s.graph.size, { s with graph := s.graph.push n })

def replace (number : Nat) (n : Node) : Composes Unit :=
  modify fun s => { s with graph := s.graph.setIfInBounds number n }

/-- Adds the node of nothing; its number. -/
def addEmpty : Composes Nat := add (.scalar (standardTag "null") "")

/-- Passes the next token if it is the given one; whether it was. -/
def passIf (t : Token) : Composes Bool := do
  if (← peek) = t then
    pass
    return true
  else return false

def sees (ts : List Token) : Composes Bool := return ts.contains (← peek)

/-- What may stand before a node: its anchor and its tag. -/
structure Properties where
  anchor : Option String := none
  tag : Option String := none

def fullTag (handle : Option String) (suffix : String) : Composes String := do
  match handle with
  | none => return suffix
  | some h =>
    match (← get).handles.lookup h with
    | some lead => return lead ++ suffix
    | none => refuse

def anchorAt : Composes (Option String) := do
  match ← peek with
  | .anchor name =>
    pass
    return some name
  | _ => return none

def tagAt : Composes (Option (Option String × String)) := do
  match ← peek with
  | .tag handle suffix =>
    pass
    return some (handle, suffix)
  | _ => return none

/-- The properties at the front, in either order. -/
def properties : Composes Properties := do
  let first ← anchorAt
  let tag ← tagAt
  let anchor ← if first.isSome then pure first else if tag.isSome then anchorAt else pure none
  let tag ← match tag with
    | some (handle, suffix) => some <$> fullTag handle suffix
    | none => pure none
  return { anchor, tag }

/-- Makes a node known by its anchor, which must be new. -/
def declare (anchor : Option String) (number : Nat) : Composes Unit := do
  match anchor with
  | none => return
  | some name =>
    if ((← get).anchors.lookup name).isSome then refuse
    modify fun s => { s with anchors := (name, number) :: s.anchors }

/-- The tag of a collection: the given one, unless that is open. -/
def collectionTag (tag : Option String) (name : String) : String :=
  match tag with
  | none | some "!" => standardTag name
  | some t => t

/-- The tag of a scalar.  A plain one without a tag, and any one with the open tag, is told by
the way it is written. -/
def scalarTag (tag : Option String) (plain : Bool) (text : String) : String :=
  match tag with
  | some "!" => plainTag text.toList
  | some t => t
  | none => if plain then plainTag text.toList else standardTag "str"

/-- The tag of a node that has properties and no text. -/
def blankTag (tag : Option String) : String := scalarTag tag true ""

/-- Reads a collection, which is known by its anchor before its parts are read; its number. -/
def anchored (anchor : Option String) (read : Composes Node) : Composes Nat := do
  let number ← add default
  declare anchor number
  replace number (← read)
  return number

/-- A scalar, which is known by its anchor; its number. -/
def addScalar (anchor : Option String) (n : Node) : Composes Nat := do
  let number ← add n
  declare anchor number
  return number

/-- A node without text, which needs properties. -/
def blank (p : Properties) : Composes Nat := do
  if p.anchor.isNone && p.tag.isNone then refuse
  addScalar p.anchor (.scalar (blankTag p.tag) "")

/-- The comma before an item between brackets, except before the first one. -/
def separator (isFirst : Bool) : Composes Unit := do
  if !isFirst then
    if !(← passIf .flowEntry) then refuse

mutual

/-- The number of a node.  `inBlock` allows collections without brackets, and `indentless` also a
list whose dashes stand in the column of the mapping around it. -/
def node (fuel : Nat) (inBlock indentless : Bool) : Composes Nat := do
  match fuel with
  | 0 => refuse
  | fuel + 1 =>
    if let .alias name ← peek then
      pass
      match (← get).anchors.lookup name with
      | some n => return n
      | none => refuse
    else
      let p ← properties
      let sequence (read : Composes (List Nat)) : Composes Nat :=
        anchored p.anchor (return .sequence (collectionTag p.tag "seq") (← read))
      let mapping (read : Composes (List (Nat × Nat))) : Composes Nat :=
        anchored p.anchor (return .mapping (collectionTag p.tag "map") (← read))
      match ← peek with
      | .scalar text plain =>
        pass
        addScalar p.anchor (.scalar (scalarTag p.tag plain text) text)
      | .flowSequence =>
        pass
        sequence (flowItems fuel true)
      | .flowMapping =>
        pass
        mapping (flowEntries fuel true)
      | .blockEntry => if indentless then sequence (indentlessItems fuel) else blank p
      | .blockSequence =>
        if inBlock then
          pass
          sequence (blockItems fuel)
        else blank p
      | .blockMapping =>
        if inBlock then
          pass
          mapping (blockEntries fuel)
        else blank p
      | _ => blank p

/-- A node, or the empty one where one of the given tokens follows. -/
def nodeUnless (fuel : Nat) (inBlock indentless : Bool) (stops : List Token) :
    Composes Nat := do
  match fuel with
  | 0 => refuse
  | fuel + 1 => if ← sees stops then addEmpty else node fuel inBlock indentless

/-- The items of a list with its own indentation. -/
def blockItems (fuel : Nat) : Composes (List Nat) := do
  match fuel with
  | 0 => refuse
  | fuel + 1 =>
    if ← passIf .blockEntry then
      let n ← nodeUnless fuel true false [.blockEntry, .blockEnd]
      return n :: (← blockItems fuel)
    else if ← passIf .blockEnd then return []
    else refuse

/-- The items of a list in the column of the mapping around it. -/
def indentlessItems (fuel : Nat) : Composes (List Nat) := do
  match fuel with
  | 0 => refuse
  | fuel + 1 =>
    if ← passIf .blockEntry then
      let n ← nodeUnless fuel true false [.blockEntry, .key, .value, .blockEnd]
      return n :: (← indentlessItems fuel)
    else return []

/-- The entries of a mapping without brackets. -/
def blockEntries (fuel : Nat) : Composes (List (Nat × Nat)) := do
  match fuel with
  | 0 => refuse
  | fuel + 1 =>
    if ← passIf .key then
      let k ← nodeUnless fuel true true [.key, .value, .blockEnd]
      let v ←
        if ← passIf .value then nodeUnless fuel true true [.key, .value, .blockEnd]
        else addEmpty
      return (k, v) :: (← blockEntries fuel)
    else if ← passIf .blockEnd then return []
    else refuse

/-- The value after a key between brackets, if there is one. -/
def flowValue (fuel : Nat) (closing : Token) : Composes Nat := do
  match fuel with
  | 0 => refuse
  | fuel + 1 =>
    if ← passIf .value then nodeUnless fuel false false [.flowEntry, closing]
    else addEmpty

/-- The items of a list between brackets.  An item may be a single entry of a mapping. -/
def flowItems (fuel : Nat) (isFirst : Bool) : Composes (List Nat) := do
  match fuel with
  | 0 => refuse
  | fuel + 1 =>
    if ← passIf .flowSequenceEnd then return []
    separator isFirst
    if ← passIf .key then
      let k ← nodeUnless fuel false false [.value, .flowEntry, .flowSequenceEnd]
      let v ← flowValue fuel .flowSequenceEnd
      let n ← add (.mapping (standardTag "map") [(k, v)])
      return n :: (← flowItems fuel false)
    else if ← passIf .flowSequenceEnd then return []
    else
      let n ← node fuel false false
      return n :: (← flowItems fuel false)

/-- The entries of a mapping between brackets.  A key may stand alone. -/
def flowEntries (fuel : Nat) (isFirst : Bool) : Composes (List (Nat × Nat)) := do
  match fuel with
  | 0 => refuse
  | fuel + 1 =>
    if ← passIf .flowMappingEnd then return []
    separator isFirst
    if ← passIf .key then
      let k ← nodeUnless fuel false false [.value, .flowEntry, .flowMappingEnd]
      let v ← flowValue fuel .flowMappingEnd
      return (k, v) :: (← flowEntries fuel false)
    else if ← passIf .flowMappingEnd then return []
    else
      let k ← node fuel false false
      return (k, ← addEmpty) :: (← flowEntries fuel false)

end

/-! ### Documents -/

/-- The directives before a document: whether there were a version and any directive at all. -/
def directives (fuel : Nat) (seenVersion : Bool) (handles : List (String × String)) :
    Composes Unit := do
  match fuel with
  | 0 => refuse
  | fuel + 1 =>
    match ← peek with
    | .directive d =>
      pass
      match d with
      | .version major =>
        if seenVersion || major != 1 then refuse
        directives fuel true handles
      | .tag handle lead =>
        if (handles.lookup handle).isSome then refuse
        directives fuel seenVersion ((handle, lead) :: handles)
      | .other => directives fuel seenVersion handles
    | _ =>
      modify fun s => { s with handles := handles ++ usualHandles }
      if !(← passIf .documentStart) then refuse

def passEnds (fuel : Nat) : Composes Unit := do
  match fuel with
  | 0 => return
  | fuel + 1 => if ← passIf .documentEnd then passEnds fuel

def seesDirective : Composes Bool := do
  match ← peek with
  | .directive _ => return true
  | _ => return false

/-- The only document of a text, if there is one. -/
def document (fuel : Nat) : Composes (Option Nat) := do
  if ← sees [.streamEnd] then return none
  let n ←
    if (← seesDirective) || (← sees [.documentStart]) then do
      directives fuel false []
      if (← seesDirective) || (← sees [.documentStart, .documentEnd, .streamEnd]) then
        addEmpty
      else node fuel true false
    else node fuel true false
  passEnds fuel
  if ← sees [.streamEnd] then return some n else refuse

/-- The graph of a text and the number of the node of its document, if it has one. -/
def graphOf (text : Supply) : Reads (Graph × Option Nat) := do
  let (tokens, breakOff) := tokensOf text
  let fuel := 4 * (tokens.length + 2)
  let (n, s) ← (document fuel).run { tokens, breakOff, handles := usualHandles }
  return (s.graph, n)

end TouchProbe.Yaml
