import TouchProbe.CommandLine.Session

/-! # Reading a program into a sequence

The sequence goes to a file if one is given, and its probes are listed.  Settings that the program
does not have come from the defaults.  The exit status is one if the program or the defaults
cannot be read or the file cannot be written, two if the reading must be free of errors and is
not, and zero otherwise.
-/

namespace TouchProbe.CommandLine.Import

open Session

def interface : Interface where
  program := "probe-import"
  summary := "Import a G-code probing program as a probe sequence"
  input := "gcode"
  inputHelp := "G-code program to parse"
  outputHelp := "Save the sequence to this YAML file"
  configHelp := "Defaults file (default: packaged defaults.yaml)"
  switch := "--strict"
  switchHelp := "Fail (exit 2) if any line could not be parsed"

/-- The exit status for a program with errors that must have none. -/
def strictStatus : Nat := 2

def probeLine (number : Nat) (p : Probe) : Except Fault String := do
  let sign := if ← p.direction.isNegative then "-" else "+"
  let distance := Number.general 6 (← p.distance.toFloat)
  let feedRate := Number.general 6 (← p.feedRate.toFloat)
  return s!"  {number}. {p.axis.name}{sign} distance={distance} feed={feedRate} " ++
    s!"pre={p.preMoves.length} post={p.postMoves.length}\n"

def list (operations : List Probe) (reading : Program.Reading) : Session Unit := do
  print
    (s!"Imported {operations.length} probe operation(s) " ++
      s!"({reading.problems.length} error(s), {reading.assumptions.length} warning(s))\n")
  for p in operations.zipIdx do
    print (← ofResult (probeLine (p.2 + 1) p.1))

/-- Saves the sequence if a file is given; false if it cannot be written. -/
def save (output : Datum) (settings : Settings) : Session Bool :=
  match givenPath? output with
  | none => return true
  | some path => do
    match ← attempt [.notWritten] (saveSequence path settings.operations settings) with
    | .error f =>
      note .error "Write failed"
      tellLine s!"Error: {f.message}"
      return false
    | .ok () => return true

def finish (o : Options) (config : Config) (reading : Program.Reading) : Session Nat := do
  for p in reading.problems do
    tellLine s!"error: {p.message}"
  for a in reading.assumptions do
    tellLine s!"warning: {a.message}"
  if o.switch && !reading.problems.isEmpty then return strictStatus
  let settings ← applyReading config.settings reading
  if !(← save o.output settings) then return 1
  list settings.operations reading
  return 0

def work (o : Options) : Session Nat := do
  match ← attempt [.badConfig, .missingFile] (loadConfig o.config) with
  | .error f =>
    tellLine s!"Error loading config: {f.message}"
    return 1
  | .ok config =>
    pushField "source" o.input
    match ← attempt [.missingFile, .undecodable] (readProgram o.input) with
    | .error f =>
      tellLine s!"Error: {f.message}"
      return 1
    | .ok reading => finish o config reading

def tool : Tool := ⟨interface, work⟩

end TouchProbe.CommandLine.Import
