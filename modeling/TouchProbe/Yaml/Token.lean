import TouchProbe.Fault
import TouchProbe.Yaml.Cursor

/-! # Tokens of YAML

The words of a YAML text.  Where a collection of a text without brackets begins and ends is told
by indentation, so its tokens stand for no characters of their own.
-/

namespace TouchProbe.Yaml

/-- Why a text cannot be read: it is no YAML text, it is none as far as one can look at it because
it ends inside a token, or it is one whose values have a fault. -/
inductive Problem where
  | illFormed
  | unfinished
  | fault (f : Fault)

abbrev Reads (α : Type) := Except Problem α

/-- Where the tokens of a text break off. -/
structure BreakOff where
  /-- The number of tokens that can be taken before the fault counts. -/
  due : Nat
  problem : Problem

/-- An instruction at the head of a document. -/
inductive Directive where
  | version (major : Nat)
  | tag (handle lead : String)
  | other
  deriving DecidableEq, Repr

inductive Token where
  | directive (d : Directive)
  | documentStart
  | documentEnd
  | streamEnd
  | blockSequence
  | blockMapping
  | blockEnd
  | flowSequence
  | flowSequenceEnd
  | flowMapping
  | flowMappingEnd
  | blockEntry
  | flowEntry
  | key
  | value
  | alias (name : String)
  | anchor (name : String)
  | tag (handle : Option String) (suffix : String)
  /-- A scalar; a plain one stands without marks around it. -/
  | scalar (text : String) (plain : Bool)
  deriving DecidableEq, Repr

end TouchProbe.Yaml
