import TouchProbe.CommandLine.Session

/-! # Writing a program from a sequence

The program is printed or goes to a file.  The exit status is one if the sequence or the defaults
cannot be used or the file cannot be written, and zero otherwise.
-/

namespace TouchProbe.CommandLine.Generate

open Session

def interface : Interface where
  program := "probe-generate"
  summary := "Generate a G-code probing program from a sequence file"
  input := "sequence"
  inputHelp := "Sequence file (sequence.v1 YAML)"
  outputHelp := "Write the program to this file instead of stdout"
  configHelp := "Defaults file to validate before generating"
  switch := "--summary"
  switchHelp := "Print probe count and estimated run time to stderr"

/-- Reads the sequence, after a test of the defaults if there are any. -/
def load (o : Options) : Session Settings := do
  if o.config.isTruthy then
    let _ ← loadConfig o.config
  loadSequence o.input

def summarize (settings : Settings) : Session Unit := do
  let path ← plan settings.operations settings.start
  let time := Number.fixed 1 (Path.duration path)
  tellLine s!"{settings.operations.length} probe operation(s), ~{time} s of motion"

/-- Writes the program of a sequence to a file or prints it; false if it cannot be written. -/
def deliver (output : Datum) (text : String) : Session Bool :=
  match givenPath? output with
  | none => do
    print text
    return true
  | some path => do
    let save := changeFiles fun t => t.writeText (Address.parse path) .utf8 text
    match ← attempt [.notWritten] save with
    | .error f =>
      note .error "Write failed"
      tellLine s!"Error: {f.message}"
      return false
    | .ok () =>
      note .info s!"Wrote {path}"
      return true

def work (o : Options) : Session Nat := do
  match ← attempt (.badConfig :: .missingFile :: valueFamilies) (load o) with
  | .error f =>
    note .debug "Failed to load inputs"
    tellLine s!"Error: {f.message}"
    return 1
  | .ok settings =>
    let text ← writeProgram settings.operations settings
    if !(← deliver o.output text) then return 1
    if o.switch then summarize settings
    return 0

def tool : Tool := ⟨interface, work⟩

end TouchProbe.CommandLine.Generate
