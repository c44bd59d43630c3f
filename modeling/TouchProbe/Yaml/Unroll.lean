import TouchProbe.Yaml.Cells

/-! # Unrolling cells

The data tree of a cell.  The value of a cell is known once those of its members are, so the values
are found in rounds.  Cells that no round settles lead back to a cell that they come from: these are
unrolled so many times that every way through different ones is seen to its end.
-/

namespace TouchProbe.Yaml

/-- The values of cells, as far as they are known. -/
abbrev Known := Array (Option Datum)

namespace Cell

/-- The value of a cell from those of its members, if all of them are known. -/
def datum? (known : Nat → Option Datum) : Cell → Option Datum
  | single d => some d
  | list items => do return .list (← items.mapM known)
  | pairs items => do
    return .list (← items.mapM fun e => return .pair (← known e.1) (← known e.2))
  | set members => do return .set (← members.mapM known)
  | mapping entries => do
    return .mapping (← entries.mapM fun e => return (← known e.1, ← known e.2))

/-- A collection of the same kind without members. -/
def emptied : Cell → Datum
  | mapping _ => .mapping []
  | set _ => .set []
  | _ => .list []

end Cell

def Known.value? (k : Known) (n : Nat) : Option Datum := (k.getD n none)

/-- One round from the last cell to the first: the cells whose members are known become known. -/
def settleOnce (cells : Array Cell) (known : Known) : Known :=
  (List.range cells.size).foldr
    (fun n (k : Known) =>
      if (k.value? n).isSome then k
      else k.setIfInBounds n ((cells.getD n default).datum? k.value?))
    known

/-- The number of cells that are not known. -/
def Known.gaps (k : Known) : Nat := k.foldl (fun n d => if d.isNone then n + 1 else n) 0

/-- Rounds until one of them settles nothing. -/
def settle (cells : Array Cell) (fuel : Nat) (known : Known) : Known :=
  match fuel with
  | 0 => known
  | fuel + 1 =>
    let next := settleOnce cells known
    if next.gaps = known.gaps then known else settle cells fuel next

/-- The values of the cells that lead back to themselves, unrolled a number of times. -/
def unroll (cells : Array Cell) (known : Known) : Nat → Known
  | 0 => known.mapIdx fun n d => d.or (some (.loop n (cells.getD n default).emptied))
  | rounds + 1 =>
    let inner := unroll cells known rounds
    known.mapIdx fun n d =>
      d.or (((cells.getD n default).datum? inner.value?).map (.loop n))

/-- The number of times that cells are unrolled beyond their number: as deep as anyone looks. -/
def spareRounds : Nat := 8

def datumOf (cells : Array Cell) (root : Nat) : Datum :=
  let known := settle cells cells.size (Array.replicate cells.size none)
  let known := if known.gaps = 0 then known else unroll cells known (known.gaps + spareRounds)
  (known.value? root).getD .null

end TouchProbe.Yaml
