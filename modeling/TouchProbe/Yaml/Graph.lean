import TouchProbe.Yaml.Token

/-! # Graphs of nodes

A document is a graph of nodes: scalars, lists and mappings, each with its tag.  A node is named by
its number, and the parts of a collection are given by their numbers.  Merging changes the nodes of
a graph in place, so whoever reads a node later reads the changed one.
-/

namespace TouchProbe.Yaml

/-- The lead of the tags of this language. -/
def tagLead : String := "tag:yaml.org,2002:"

def standardTag (name : String) : String := tagLead ++ name

inductive Node where
  | scalar (tag text : String)
  | sequence (tag : String) (items : List Nat)
  | mapping (tag : String) (entries : List (Nat × Nat))

instance : Inhabited Node := ⟨.scalar "" ""⟩

namespace Node

def tag : Node → String
  | scalar t _ => t
  | sequence t _ => t
  | mapping t _ => t

def withTag (t : String) : Node → Node
  | scalar _ text => scalar t text
  | sequence _ items => sequence t items
  | mapping _ entries => mapping t entries

def has (n : Node) (name : String) : Bool := n.tag == standardTag name

def entries : Node → List (Nat × Nat)
  | mapping _ entries => entries
  | _ => []

def withEntries (entries : List (Nat × Nat)) : Node → Node
  | mapping t _ => mapping t entries
  | n => n

end Node

/-- The nodes of a document by their numbers. -/
abbrev Graph := Array Node

namespace Graph

def node (g : Graph) (n : Nat) : Node := g.getD n default

def update (g : Graph) (n : Nat) (f : Node → Node) : Graph := g.modify n f

/-- The number of entries whose key has a tag of this language. -/
def countOf (g : Graph) (name : String) : Nat :=
  g.foldl (fun k n => k + n.entries.countP fun e => (g.node e.1).has name) 0

/-- The first entry of a mapping whose key has a tag of this language. -/
def entryWith? (g : Graph) (n : Nat) (name : String) : Option (Nat × Nat) :=
  (g.node n).entries.find? fun e => (g.node e.1).has name

end Graph

end TouchProbe.Yaml
