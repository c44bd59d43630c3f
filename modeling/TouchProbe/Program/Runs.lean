import TouchProbe.Program.Command

/-! # Runs of clearing pauses

Two or more clearing pauses in a row make a run.  Blank lines and comment lines neither end a
run nor belong to it; every other line ends it.
-/

namespace TouchProbe.Program

/-- What a line means for the run of clearing pauses that it stands in. -/
inductive Mark where
  | clears
  | passes
  | ends
  deriving DecidableEq, Repr

def markOf (line : List Char) : Mark :=
  let s := Text.trim line
  if s.isEmpty || isComment s then .passes
  else if isClearing s then .clears
  else .ends

def leastRun : Nat := 2

/-- A run that is complete, in the order of its lines; nothing if it is too short. -/
def closeRun (reversed : List Nat) : List (List Nat) :=
  if leastRun ≤ reversed.length then [reversed.reverse] else []

/-- The runs of a list of marks, each as the indices of its lines.  The run so far is given last
line first. -/
def runsFrom (index : Nat) (reversed : List Nat) : List Mark → List (List Nat)
  | [] => closeRun reversed
  | .clears :: rest => runsFrom (index + 1) (index :: reversed) rest
  | .passes :: rest => runsFrom (index + 1) reversed rest
  | .ends :: rest => closeRun reversed ++ runsFrom (index + 1) [] rest

def runs (lines : List (List Char)) : List (List Nat) := runsFrom 0 [] (lines.map markOf)

/-- The first lines of runs, each with the length of its run. -/
def starts (rs : List (List Nat)) : List (Nat × Nat) :=
  rs.filterMap fun r => r.head?.map fun first => (first, r.length)

def members (rs : List (List Nat)) : List Nat := rs.flatten

end TouchProbe.Program
