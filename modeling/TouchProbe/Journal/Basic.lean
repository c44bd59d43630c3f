import TouchProbe.FileTree.Basic
import TouchProbe.Journal.Layout
import TouchProbe.Text.Pattern

/-! # The journal

Where notes go.  A journal lets a note pass if it matters enough, and writes it to each of its
outputs: to the terminal, or to the end of a file.  A journal that was never set up has no
outputs, so nothing is written.

`Console` is all that a run of the program changes: the files, the journal, and the two texts
that it prints.
-/

namespace TouchProbe

inductive Destination where
  | terminal
  | file (address : Address)
  deriving DecidableEq, Repr

/-- A way on which notes leave the program. -/
structure Output where
  destination : Destination
  layout : Layout
  isColoured : Bool
  deriving DecidableEq, Repr

/-- What decides which notes are written, where, and with which fields. -/
structure Journal where
  /-- The least level of a note that is written. -/
  level : Level := Level.warning
  context : Fields := []
  outputs : List Output := []

namespace Journal

def push (j : Journal) (fields : Fields) : Journal :=
  { j with context := j.context.setAll fields }

/-- Which names a value holds: a list or a mapping its members, a text all that stands in it. -/
def namesIn? : Datum → Option (String → Bool)
  | .list xs => some fun n => xs.any (·.same (.text n))
  | .mapping entries => some fun n => (Datum.lookup? entries (.text n)).isSome
  | .text s => some fun n => Text.anywhere (n.toList.isPrefixOf ·) s.toList
  | _ => none

/-- Takes fields away; all of them if no names are given. -/
def pop (j : Journal) (names : Datum) : Except Fault Journal :=
  match names, namesIn? names with
  | .null, _ => .ok { j with context := [] }
  | _, some isNamed => .ok { j with context := j.context.without isNamed }
  | _, none => if j.context.isEmpty then .ok j else .error .wrongKind

def passes (j : Journal) (level : Level) : Bool := 0 < level && j.level ≤ level

/-- What is written for a note, with the destination of each line. -/
def lines (j : Journal) (process : Nat) (time : Layout → String) (n : Note) :
    List (Destination × String) :=
  if !j.passes n.level then []
  else
    j.outputs.filterMap fun o =>
      match o.layout.write o.isColoured process (time o.layout) j.context n with
      | .ok line => some (o.destination, line)
      | .error _ => none

end Journal

/-- All that a run changes, and what it cannot change. -/
structure Console where
  files : FileTree
  journal : Journal := {}
  /-- What was printed. -/
  out : String := ""
  /-- What was printed for the one who watches the run. -/
  err : String := ""
  /-- The time as notes tell it. -/
  time : Layout → String
  /-- The number of the process. -/
  process : Nat
  /-- Whether a terminal shows the run. -/
  isTerminal : Bool := false
  /-- The endings of names that are made up. -/
  freshEnding : Nat → String

namespace Console

def print (c : Console) (s : String) : Console := { c with out := c.out ++ s }

/-- Prints a text for the one who watches the run. -/
def tell (c : Console) (s : String) : Console := { c with err := c.err ++ s }

def deliver (c : Console) (line : Destination × String) : Console :=
  let s := line.2 ++ "\n"
  match line.1 with
  | .terminal => c.tell s
  | .file a =>
    match Text.encode .utf8 s with
    | .ok bytes => { c with files := (c.files.append a bytes).1 }
    | .error _ => c

def note (c : Console) (n : Note) : Console :=
  (c.journal.lines c.process c.time n).foldl deliver c

structure Setup where
  level : Datum := .text "INFO"
  /-- A file that takes the notes too, if the value counts as true. -/
  file : Datum := .null
  layout : Layout := .human
  isColoured : Bool := true
  /-- The fields of all notes from now on, if the value counts as true. -/
  context : Datum := .null

/-- Makes a file ready to take notes: it comes into being if it is missing. -/
def openLog (c : Console) (a : Address) : Console × Except Fault Unit :=
  let (files, r) := FileTree.andThen (c.files.makeFolder a.parent) fun t => t.append a []
  ({ c with files }, r)

def openOutputs (c : Console) (s : Setup) : Console × Except Fault (List Output) :=
  let terminal : Output := ⟨.terminal, s.layout, s.isColoured && c.isTerminal⟩
  if !s.file.isTruthy then (c, .ok [terminal])
  else
    match s.file with
    | .text name =>
      let a := Address.parse name
      let (c, r) := c.openLog a
      (c, r.map fun _ => [terminal, ⟨.file a, s.layout, false⟩])
    | _ => (c, .error .wrongKind)

/-- Adds the fields that a value holds to all notes, if the value counts as true. -/
def addContext (c : Console) (d : Datum) : Console × Except Fault Unit :=
  if !d.isTruthy then (c, .ok ())
  else
    match Fields.ofDatum d with
    | .ok fields => ({ c with journal := c.journal.push fields }, .ok ())
    | .error f => (c, .error f)

/-- Sets the journal up anew.  The context stays and gets more fields.  If the file cannot be
used the journal is left without outputs. -/
def setUp (c : Console) (s : Setup) : Console × Except Fault Unit :=
  match Level.ofDatum s.level with
  | .error f => (c, .error f)
  | .ok level =>
    let c := { c with journal := { c.journal with level, outputs := [] } }
    match c.openOutputs s with
    | (c, .error f) => (c, .error f)
    | (c, .ok outputs) => addContext { c with journal := { c.journal with outputs } } s.context

/-- The error that ends a run. -/
inductive Crash where
  /-- The one who watches the run stopped it. -/
  | interrupt (message : String)
  | error (kind message : String)
  deriving DecidableEq, Repr

/-- An error by its kind and its message, if it has one. -/
def errorLine (kind message : String) : String :=
  if message.isEmpty then kind else s!"{kind}: {message}"

/-- The error of a kind.  A missing key is shown as messages show it. -/
def Crash.ofKind (kind : String) (message : Datum) : Crash :=
  if kind = "KeyboardInterrupt" then .interrupt message.plain
  else if kind = "KeyError" then .error kind message.shown
  else .error kind message.plain

def crash (c : Console) : Crash → Console
  | .interrupt message => c.tell (errorLine "KeyboardInterrupt" message ++ "\n")
  | .error kind message =>
    c.note {
      source := .text "probe_designer.utils.logging_config"
      level := .critical
      text := "Uncaught exception"
      cause := some (errorLine kind message) }

end Console

end TouchProbe
