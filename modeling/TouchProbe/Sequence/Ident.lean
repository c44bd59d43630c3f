import TouchProbe.Datum

/-! # Ids

What probes and steps are told apart by.  An id is given with them, as any value, or it is made up
for those that came without one.  A made-up id is like no other: it cannot be given, so nothing is
found by it.
-/

namespace TouchProbe

/-- What a probe or a step is told by. -/
inductive Ident where
  | given (d : Datum)
  /-- Made up, and not named yet. -/
  | made

namespace Ident

def isNamed (i : Ident) (name : Datum) : Bool :=
  match i with
  | given d => d.same name
  | made => false

/-- An id as a value; one that is made up is held by the text for it. -/
def datum (unnamed : String) : Ident → Datum
  | given d => d
  | made => .text unnamed

/-- An id, with a name for one that is made up. -/
def orNamed (name : String) : Ident → Ident
  | given d => given d
  | made => given (.text name)

@[simp] theorem isNamed_made (name : Datum) : made.isNamed name = false := rfl

@[simp] theorem orNamed_given (name : String) (d : Datum) : (given d).orNamed name = given d := rfl

end Ident

end TouchProbe
