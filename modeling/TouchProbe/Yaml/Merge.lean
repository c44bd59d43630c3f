import TouchProbe.Yaml.Graph

/-! # Merging

A mapping may merge the entries of other mappings into its own.  The merged ones come before its
own, so that its own count, and of a list of mappings the later ones come first.

A mapping that is merged is itself merged before, in place.  Every step takes one merge entry out of
the graph for good, so a mapping may also merge itself: by then it has only its other entries.
-/

namespace TouchProbe.Yaml

def dropEntry (g : Graph) (n : Nat) (e : Nat × Nat) : Graph :=
  g.update n fun m => m.withEntries (m.entries.erase e)

/-- The graph in which the keys of a mapping that name its value are texts. -/
def plainKeys (g : Graph) (n : Nat) : Graph :=
  (g.node n).entries.foldl
    (fun g e =>
      if (g.node e.1).has "value" then g.update e.1 (·.withTag (standardTag "str")) else g)
    g

/-- The graph with a mapping whose merge entries are replaced by what they stand for, after some
entries that were merged before.  `fuel` is the number of merge entries that are left. -/
def mergeInto (fuel : Nat) (merged : List (Nat × Nat)) (g : Graph) (n : Nat) : Reads Graph :=
  match g.entryWith? n "merge", fuel with
  | none, _ =>
    let g := plainKeys g n
    .ok (if merged.isEmpty then g else g.update n fun m => m.withEntries (merged ++ m.entries))
  | some _, 0 => .error .illFormed
  | some e, fuel + 1 => do
    let g := dropEntry g n e
    match g.node e.2 with
    | .mapping .. =>
      let g ← mergeInto fuel [] g e.2
      mergeInto fuel (merged ++ (g.node e.2).entries) g n
    | .sequence _ items =>
      let (g, parts) ← items.foldlM
        (fun (st : Graph × List (List (Nat × Nat))) item =>
          match st.1.node item with
          | .mapping .. => do
            let g ← mergeInto fuel [] st.1 item
            return (g, (g.node item).entries :: st.2)
          | _ => throw .illFormed)
        (g, [])
      mergeInto fuel (merged ++ parts.flatten) g n
    | .scalar .. => throw .illFormed

/-- The graph with a mapping whose merge entries are replaced by what they stand for. -/
def mergeNode (g : Graph) (n : Nat) : Reads Graph :=
  match g.entryWith? n "merge" with
  | none => .ok (plainKeys g n)
  | some _ => mergeInto (g.countOf "merge" + 1) [] g n

end TouchProbe.Yaml
