import TouchProbe.Sequence.Probe

/-! # Names for what has none

Probe operations and steps without an id get one that ends in a text from a supply.  Each probe
takes the next text, then its moves take theirs in order.
-/

namespace TouchProbe.Naming

def nameStep (ending : String) : Step → Step
  | .rapid r => .rapid { r with id := r.id.orNamed ("step-" ++ ending) }
  | .dwell d => .dwell { d with id := d.id.orNamed ("step-" ++ ending) }

/-- Steps with ids, which take the texts from a number on. -/
def nameSteps (endings : Nat → String) (first : Nat) (steps : List Step) : List Step :=
  steps.zipIdx.map fun s => nameStep (endings (first + s.2)) s.1

/-- The number of texts that a probe takes. -/
def idCount (p : Probe) : Nat := 1 + p.preMoves.length + p.postMoves.length

def nameProbe (endings : Nat → String) (first : Nat) (p : Probe) : Probe :=
  { p with
    id := p.id.orNamed ("probe-" ++ endings first)
    preMoves := nameSteps endings (first + 1) p.preMoves
    postMoves := nameSteps endings (first + 1 + p.preMoves.length) p.postMoves }

def nameProbes (endings : Nat → String) (first : Nat) : List Probe → List Probe
  | [] => []
  | p :: rest => nameProbe endings first p :: nameProbes endings (first + idCount p) rest

end TouchProbe.Naming
