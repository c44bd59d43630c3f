import TouchProbe.Yaml.Node
import TouchProbe.Yaml.Unroll

/-! # The meaning of a text

The value of the document that a YAML text holds: its tokens make a graph of nodes, the nodes give
cells, and the cells are unrolled into a data tree.
-/

namespace TouchProbe.Yaml

/-- The value of the only document of the text of some bytes; nothing if there is none. -/
def read (bytes : List UInt8) : Reads Datum := do
  match ← graphOf (.ofBytes bytes) with
  | (_, none) => return .null
  | (g, some root) =>
    let (cells, cell) ← cellsOf g root
    return datumOf cells cell

end TouchProbe.Yaml
