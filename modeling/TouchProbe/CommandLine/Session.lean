import TouchProbe.CommandLine.Arguments
import TouchProbe.Defaults
import TouchProbe.Journal.Basic
import TouchProbe.Path
import TouchProbe.Program.Writer
import TouchProbe.Sequence.Naming

/-! # Sessions

What a program does one step after the other: each step may change the console and may end the
session with a fault, and what was printed and written before stays.  The steps here are those
of the library, together with the notes that they leave in the journal.
-/

namespace TouchProbe.CommandLine

/-- A step of a program. -/
abbrev Session := ExceptT Fault (StateM Console)

namespace Session

variable {α : Type}

def ofResult (r : Except Fault α) : Session α := ExceptT.mk (pure r)

def print (s : String) : Session Unit := modify (·.print s)

/-- Prints a line for the one who watches the run. -/
def tellLine (s : String) : Session Unit := modify (·.tell (s ++ "\n"))

def note (level : Level) (text : String) : Session Unit :=
  modify (·.note { source := .text "touchprobe", level, text })

def files : Session FileTree := do return (← get).files

/-- Changes the files; a change that fails ends the session. -/
def changeFiles (f : FileTree → FileTree.Outcome) : Session Unit := do
  let (t, r) := f (← files)
  modify fun c => { c with files := t }
  ofResult r

/-- A step whose faults of some families are its result. -/
def attempt (families : List Fault.Family) (x : Session α) : Session (Except Fault α) :=
  ExceptT.mk do
    match ← x.run with
    | .ok a => return .ok (.ok a)
    | .error f => return if families.contains f.family then .ok (.error f) else .error f

/-- The families of faults that make a value unusable. -/
def valueFamilies : List Fault.Family := [.badValue, .undecodable, .unencodable]

def setUpJournal (program : String) (logLevel : Datum) : Session Unit := ExceptT.mk fun c =>
  let (c, r) := c.setUp {
    level := logLevel
    context := .record [("app", .text program)] }
  (r, c)

def pushField (name value : String) : Session Unit :=
  modify fun c => { c with journal := c.journal.push [(name, .text value)] }

/-! ### Steps of the library -/

def packagedName : String := "<defaults.yaml>"

/-- The note on a number of pauses that a reader of the program could not find. -/
def lonePauseText : String :=
  "dwells_before_probe=1: a single G4 P0.01 line is not recognised as a buffer-clear block " ++
    "on re-import"

def loadConfigAt (a : Address) : Session Config := do
  let t ← files
  if !t.has a then ofResult (.error (.missingFile "Configuration file" a.text))
  note .info s!"Loading configuration from {a.text}"
  let defaults ← ofResult (Config.loadDatum t a >>= Defaults.ofDatum)
  ofResult (defaults.checkDwells.mapError Defaults.rangeFault)
  if defaults.hasLonePause then note .warning lonePauseText
  let config ← ofResult (defaults.checkOthers.mapError Defaults.rangeFault)
  note .info "Configuration loaded successfully"
  return config

/-- Reads a defaults file, or takes the defaults that come with the program. -/
def loadConfig (path : Datum) : Session Config :=
  match path with
  | .text path => loadConfigAt (Address.parse path)
  | .null => do
    note .info s!"Loading configuration from {packagedName}"
    note .info "Configuration loaded successfully"
    return Config.packaged
  | _ => throw .wrongKind

def loadSequence (path : String) : Session Settings := do
  let settings ← ofResult ((← files).loadSequence (Address.parse path))
  note .info s!"Loaded {settings.operations.length} probe operation(s) from {path}"
  return settings

/-- The path that an option gives; none if it is empty. -/
def givenPath? : Datum → Option String
  | .text path => if path.isEmpty then none else some path
  | _ => none

def saveSequence (path : String) (operations : List Probe) (settings : Settings) :
    Session Unit := do
  let a := Address.parse path
  changeFiles fun t => t.saveSequence a operations settings
  note .info s!"Saved {operations.length} probe operation(s) to {a.text}"

def writeProgram (operations : List Probe) (settings : Settings) : Session String := do
  let text ← ofResult (Program.write operations settings)
  let count := text.toList.count '\n'
  note .debug s!"Generated {operations.length} probe operation(s), {count} lines"
  return text

def readText (text : String) : Session Program.Reading := do
  let reading := Program.read text
  for p in reading.problems do
    note .warning p.message
  let lineCount := (Program.linesOf text).length
  note .info
    (s!"Parsed {reading.probes.length} probe operation(s) from {lineCount} lines " ++
      s!"({reading.problems.length} error(s))")
  return { reading with probes := Naming.nameProbes (← get).freshEnding 0 reading.probes }

def readProgram (path : String) : Session Program.Reading := do
  let a := Address.parse path
  let t ← files
  if !t.has a then ofResult (.error (.missingFile "G-code file" a.text))
  note .info s!"Loading G-code from {a.text}"
  readText (← ofResult (t.programText a))

def applyReading (settings : Settings) (reading : Program.Reading) : Session Settings := do
  let changed := Edit.changedSettings reading
  let what := if changed.isEmpty then "no settings" else ", ".intercalate changed
  note .info s!"Imported {reading.probes.length} probe operation(s); updated {what}"
  return Edit.applyReading settings reading

def plan (operations : List Probe) (start : Position) : Session (List Segment) := do
  let path ← ofResult (Path.plan operations start Path.usualRapidFeed)
  note .debug s!"Planned {path.length} segment(s) for {operations.length} operation(s)"
  return path

end Session

/-- What a program does when its arguments are read. -/
structure Tool where
  interface : Interface
  work : Options → Session Nat

/-- Runs a program; the result is its exit status. -/
def Tool.run (tool : Tool) (args : List String) : Session Nat := do
  let i := tool.interface
  match readArguments i args with
  | .error .help =>
    Session.print i.help
    return 0
  | .error (.failure message) =>
    modify (·.tell i.usage)
    Session.tellLine s!"{i.program}: error: {message}"
    return 2
  | .ok options =>
    Session.setUpJournal i.program options.logLevel
    tool.work options

end TouchProbe.CommandLine
