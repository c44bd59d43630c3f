/-! # Interfaces

What a program takes on its command line: one input file, the options that both programs have,
and one switch of its own.  `usage` and `help` tell of it on lines of at most 78 characters.
-/

namespace TouchProbe.CommandLine

inductive Choice where
  | help
  | output
  | config
  | switch
  | logLevel
  deriving DecidableEq, Repr

/-- What tells the programs apart on the command line. -/
structure Interface where
  program : String
  summary : String
  input : String
  inputHelp : String
  outputHelp : String
  configHelp : String
  /-- The switch of this program alone. -/
  switch : String
  switchHelp : String

def logLevels : List String := ["DEBUG", "INFO", "WARNING", "ERROR"]

def usualLogLevel : String := "WARNING"

namespace Interface

def choices : List Choice := [.help, .output, .config, .switch, .logLevel]

def spellings (i : Interface) : Choice → List String
  | .help => ["-h", "--help"]
  | .output => ["--output", "-o"]
  | .config => ["--config", "-c"]
  | .switch => [i.switch]
  | .logLevel => ["--log-level"]

/-- What stands for the value of an option; nothing for one that has no value. -/
def value? : Choice → Option String
  | .help | .switch => none
  | .output => some "OUTPUT"
  | .config => some "CONFIG"
  | .logLevel => some ("\x7b" ++ ",".intercalate logLevels ++ "\x7d")

def about (i : Interface) : Choice → String
  | .help => "show this help message and exit"
  | .output => i.outputHelp
  | .config => i.configHelp
  | .switch => i.switchHelp
  | .logLevel => s!"Logging level (default: {usualLogLevel})"

def name (i : Interface) (c : Choice) : String := "/".intercalate (i.spellings c)

def spelled (i : Interface) : List (String × Choice) :=
  choices.flatMap fun c => (i.spellings c).map fun s => (s, c)

def find? (i : Interface) (s : String) : Option Choice := i.spelled.lookup s

def width : Nat := 78

def helpColumn : Nat := 24

def blanks (n : Nat) : String := String.ofList (List.replicate n ' ')

/-- Words on lines with a room, given the words of the line so far. -/
def fillFrom (room : Nat) (line : List String) : List String → List (List String)
  | [] => [line]
  | word :: rest =>
    let longer := line ++ [word]
    if line.isEmpty || (" ".intercalate longer).length ≤ room then fillFrom room longer rest
    else line :: fillFrom room [word] rest

/-- An option in the usage: its first spelling with its value, in brackets. -/
def usageWord (i : Interface) (c : Choice) : String :=
  let spelling := (i.spellings c).headD ""
  let body := match value? c with
    | none => spelling
    | some v => spelling ++ " " ++ v
  "[" ++ body ++ "]"

def usage (i : Interface) : String :=
  let start := s!"usage: {i.program} "
  let words := fillFrom (width - start.length) [] (choices.map i.usageWord)
  let lines := words.map (" ".intercalate ·) ++ [i.input]
  start ++ ("\n" ++ blanks start.length).intercalate lines ++ "\n"

/-- An entry of a list of explanations, on a line of its own if it is too long. -/
def row (head explanation : String) : String :=
  let room := helpColumn - 4
  let gap := if head.length ≤ room then blanks (room - head.length + 2)
    else "\n" ++ blanks helpColumn
  "  " ++ head ++ gap ++ explanation ++ "\n"

/-- An option in the list of explanations: all its spellings, each with its value. -/
def rowHead (i : Interface) (c : Choice) : String :=
  ", ".intercalate ((i.spellings c).map fun s => match value? c with
    | none => s
    | some v => s ++ " " ++ v)

def help (i : Interface) : String :=
  let options := choices.map fun c => row (i.rowHead c) (i.about c)
  i.usage ++ "\n" ++ i.summary ++ "\n\npositional arguments:\n" ++ row i.input i.inputHelp ++
    "\noptions:\n" ++ String.join options

end Interface

end TouchProbe.CommandLine
