import TouchProbe.Sequence.Record

/-! # Validated values

What comes out of checking a part of a document: a value, or everything that is wrong with it.
Checks of several parts are joined so that all their violations are kept, in the order of the
parts.  Places are counted from the part that was checked; `within` puts it into its whole.
-/

namespace TouchProbe.Document

/-- A value that passed its checks, or the violations. -/
inductive Validated (α : Type) where
  | valid (a : α)
  | invalid (violations : List Violation)

namespace Validated

variable {α β : Type}

def violations : Validated α → List Violation
  | valid _ => []
  | invalid vs => vs

def map (f : α → β) : Validated α → Validated β
  | valid a => valid (f a)
  | invalid vs => invalid vs

def join (f : Validated (α → β)) (a : Validated α) : Validated β :=
  match f, a with
  | valid f, valid a => valid (f a)
  | f, a => invalid (f.violations ++ a.violations)

instance : Applicative Validated where
  pure := valid
  seq f a := join f (a ())

/-- A single violation at the part itself. -/
def breach (b : Breach) : Validated α := invalid [⟨[], b⟩]

/-- A check of a part, seen from the whole. -/
def within (p : Place) : Validated α → Validated α
  | valid a => valid a
  | invalid vs => invalid (vs.map fun v => { v with place := p :: v.place })

/-- A check that goes on with a value that passed. -/
def andThen (a : Validated α) (f : α → Validated β) : Validated β :=
  match a with
  | valid a => f a
  | invalid vs => invalid vs

def ensure (test : α → Bool) (b : Breach) (a : Validated α) : Validated α :=
  a.andThen fun a => if test a then valid a else breach b

/-- Checks of the members of a list, counted from an index. -/
def each (check : α → Validated β) (index : Nat) : List α → Validated (List β)
  | [] => valid []
  | a :: rest =>
    List.cons <$> (check a).within (.index index) <*> each check (index + 1) rest

end Validated

end TouchProbe.Document
