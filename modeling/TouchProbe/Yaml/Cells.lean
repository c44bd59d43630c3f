import TouchProbe.Yaml.Merge
import TouchProbe.Yaml.ScalarValue

/-! # Cells

The values of a graph of nodes, as cells: a cell holds a single value, or a collection whose members
are given by the numbers of their cells.  A node has one cell, however often it is a part of others.

A scalar gets its value as soon as it is met.  A collection first gets an empty cell and is filled
later, in the order in which collections were met.  So the values of a document come level by level,
and the first one that has a fault ends the reading.
-/

namespace TouchProbe.Yaml

/-- A value whose members are given by their cells. -/
inductive Cell where
  | single (d : Datum)
  | list (items : List Nat)
  | pairs (items : List (Nat × Nat))
  | set (members : List Nat)
  | mapping (entries : List (Nat × Nat))

instance : Inhabited Cell := ⟨.single .null⟩

inductive CollectionKind where
  | list
  | pairs
  | set
  | mapping
  deriving DecidableEq, Repr

def collectionKinds : List (String × CollectionKind) := [
  ("seq", .list), ("map", .mapping), ("set", .set), ("omap", .pairs), ("pairs", .pairs)]

def Node.kind? (n : Node) : Option CollectionKind :=
  (collectionKinds.find? fun k => n.has k.1).map (·.2)

def CollectionKind.empty : CollectionKind → Cell
  | .list => .list []
  | .pairs => .pairs []
  | .set => .set []
  | .mapping => .mapping []

/-- A collection that is to be filled. -/
structure Task where
  node : Nat
  cell : Nat
  kind : CollectionKind

/-- The state of the reader of values. -/
structure Build where
  graph : Graph
  cells : Array Cell := #[]
  /-- The cells of the nodes that were met, by the numbers of the nodes. -/
  cellOf : Array (Option Nat)
  /-- The cell of the one value that is written as no number. -/
  noNumber : Option Nat := none
  /-- The collections that are to be filled, the last one first. -/
  tasks : List Task := []

abbrev Builds (α : Type) := StateT Build (Except Problem) α

namespace Builds

/-- Adds a cell; its number. -/
def addCell (c : Cell) : Builds Nat :=
  modifyGet fun s => (s.cells.size, { s with cells := s.cells.push c })

def fill (cell : Nat) (c : Cell) : Builds Unit :=
  modify fun s => { s with cells := s.cells.setIfInBounds cell c }

/-- The text of a node that stands for a scalar: its own, or that of the value which a mapping
names.  There are no more steps on the way than there are nodes, unless it leads back to itself. -/
def scalarText (g : Graph) (fuel n : Nat) : Reads String :=
  match g.node n, fuel with
  | .scalar _ text, _ => .ok text
  | .mapping .., fuel + 1 =>
    match g.entryWith? n "value" with
    | some e => scalarText g fuel e.2
    | none => .error .illFormed
  | _, _ => .error .illFormed

/-- The value of a node by a tag for scalars.  A date is read from the text of a scalar alone. -/
def scalarDatum (g : Graph) (n : Nat) : Reads Datum := do
  let node := g.node n
  let text ← scalarText g g.size n
  match node with
  | .mapping .. => if node.has "timestamp" then failWith .wrongKind else textValue node.tag text
  | _ => textValue node.tag text

/-- Whether a tag and a text name the value that is no number, of which there is only one. -/
def namesNoNumber (d : Datum) (text : String) : Bool :=
  match d with
  | .float x =>
    let name := (dropMarks text.toList).map Char.toLower
    x.isNaN && (name == ".nan".toList || name == "+.nan".toList || name == "-.nan".toList)
  | _ => false

def noNumberCell (d : Datum) : Builds Nat := do
  match (← get).noNumber with
  | some cell => return cell
  | none =>
    let cell ← addCell (.single d)
    modify fun s => { s with noNumber := some cell }
    return cell

def scalarCell (n : Nat) : Builds Nat := do
  let g := (← get).graph
  let d ← scalarDatum g n
  let text ← scalarText g g.size n
  if namesNoNumber d text then noNumberCell d else addCell (.single d)

/-- The cell of a collection, which is to be filled later. -/
def collectionCell (n : Nat) (kind : CollectionKind) : Builds Nat := do
  let cell ← addCell kind.empty
  modify fun s => { s with tasks := ⟨n, cell, kind⟩ :: s.tasks }
  return cell

def cell (n : Nat) : Builds Nat := do
  match (← get).cellOf.getD n none with
  | some cell => return cell
  | none =>
    let cell ← match ((← get).graph.node n).kind? with
      | some kind => collectionCell n kind
      | none => scalarCell n
    modify fun s => { s with cellOf := s.cellOf.setIfInBounds n (some cell) }
    return cell

def sameKey (cells : Array Cell) (a b : Nat) : Bool :=
  a == b || match cells.getD a default, cells.getD b default with
    | .single d, .single e => d.same e
    | _, _ => false

def insertKey (cells : Array Cell) (key value : Nat) : List (Nat × Nat) → List (Nat × Nat)
  | [] => [(key, value)]
  | e :: rest =>
    if sameKey cells e.1 key then (e.1, value) :: rest else e :: insertKey cells key value rest

/-- The cell of a key, which must hold a single value. -/
def keyCell (n : Nat) : Builds Nat := do
  let cell ← cell n
  match (← get).cells.getD cell default with
  | .single _ => return cell
  | _ => throw .illFormed

/-- The entries of a node that must be a mapping, after merging. -/
def entriesOf (n : Nat) : Builds (List (Nat × Nat)) := do
  match (← get).graph.node n with
  | .mapping .. =>
    let graph ← mergeNode (← get).graph n
    modify fun s => { s with graph }
    let entries ← (graph.node n).entries.mapM fun e => return (← keyCell e.1, ← cell e.2)
    let cells := (← get).cells
    return entries.foldl (fun es e => insertKey cells e.1 e.2 es) []
  | _ => throw .illFormed

/-- The number of places in a set of some members: eight, or the least power of two that is more
than twice as many as the members. -/
def placesFor (count : Nat) : Nat := if count < 5 then 8 else 2 ^ (Nat.log2 (2 * count) + 1)

/-- The place of a whole number among those of a set; minus one has that of minus two. -/
def placeOf? (places : Nat) : Cell → Option Nat
  | .single (.int n) => some ((if n = -1 then -2 else n) % places).toNat
  | _ => none

/-- The members of a set in their order: whole numbers with places of their own stand by their
places, all others as they were given. -/
def setOrder (cells : Array Cell) (members : List Nat) : List Nat :=
  let place (m : Nat) := placeOf? (placesFor members.length) (cells.getD m default)
  let taken := members.map place
  if taken.contains none || taken.eraseDups.length != taken.length then members
  else members.mergeSort fun a b => (place a).getD 0 ≤ (place b).getD 0

def itemsOf (n : Nat) : Builds (List Nat) := do
  match (← get).graph.node n with
  | .sequence _ items => items.mapM cell
  | _ => throw .illFormed

/-- The pairs of a node that must be a list of mappings with one entry each. -/
def pairsOf (n : Nat) : Builds (List (Nat × Nat)) := do
  match (← get).graph.node n with
  | .sequence _ items =>
    items.mapM fun item => do
      match (← get).graph.node item with
      | .mapping _ [e] => return (← cell e.1, ← cell e.2)
      | _ => throw .illFormed
  | _ => throw .illFormed

def runTask (t : Task) : Builds Unit := do
  match t.kind with
  | .list => fill t.cell (.list (← itemsOf t.node))
  | .pairs => fill t.cell (.pairs (← pairsOf t.node))
  | .set =>
    let entries ← entriesOf t.node
    fill t.cell (.set (setOrder (← get).cells (entries.map (·.1))))
  | .mapping => fill t.cell (.mapping (← entriesOf t.node))

/-- Fills all collections, those that were met first before those that are met on the way.  No
node is met twice, so there are no more rounds than nodes. -/
def runTasks (fuel : Nat) : Builds Unit := do
  match fuel with
  | 0 => return
  | fuel + 1 =>
    let tasks := (← get).tasks
    if !tasks.isEmpty then
      modify fun s => { s with tasks := [] }
      tasks.reverse.forM runTask
      runTasks fuel

end Builds

/-- The cells of a graph and the number of the cell of one of its nodes. -/
def cellsOf (g : Graph) (root : Nat) : Reads (Array Cell × Nat) := do
  let (cell, s) ← (do
    let cell ← Builds.cell root
    Builds.runTasks (g.size + 1)
    return cell : Builds Nat).run { graph := g, cellOf := Array.replicate g.size none }
  return (s.cells, cell)

end TouchProbe.Yaml
