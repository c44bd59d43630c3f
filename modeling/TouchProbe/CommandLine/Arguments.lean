import TouchProbe.CommandLine.Interface
import TouchProbe.Datum
import TouchProbe.Text.Blank
import TouchProbe.Text.Digits
import TouchProbe.Text.Quoted

/-! # Arguments

Reading the arguments of a program.  First every argument is taken by itself: as an option, which
may be cut short as long as it is clear, as a plain word, or as the divider after which all
words are plain.  Then the words are used from left to right: an option takes its value, and the
first plain word is the input file.  What nothing takes is a failure, but a request for help
before it is answered first.
-/

namespace TouchProbe.CommandLine

open Text

structure Options where
  input : String
  output : Datum := .null
  config : Datum := .null
  switch : Bool := false
  logLevel : Datum := .text usualLogLevel

/-- Why a program does not start its work. -/
inductive Stop where
  | help
  | failure (message : String)
  deriving DecidableEq, Repr

inductive Given where
  | nothing
  /-- The characters after the letter of the option, or after an equals sign behind that. -/
  | joined (value : List Char)
  /-- The characters after an equals sign behind the name of the option. -/
  | equated (value : List Char)
  deriving DecidableEq, Repr

/-- The argument after which all words are plain. -/
def divider : String := "--"

inductive Word where
  | plain (s : String)
  /-- The two dashes after which all words are plain. -/
  | divider
  | choice (c : Choice) (given : Given)
  /-- A word that looks like an option and is none. -/
  | stray (s : String)
  deriving DecidableEq, Repr

def isNegativeNumber (s : List Char) : Bool :=
  let s := if s.getLast? = some '\n' then s.dropLast else s
  match s with
  | '-' :: rest =>
    match rest.dropWhile isDigit with
    | [] => !rest.isEmpty
    | '.' :: fraction => !fraction.isEmpty && fraction.all isDigit
    | _ => false
  | _ => false

def cutValue (s : List Char) : String × Given :=
  match s.dropWhile (· != '=') with
  | [] => (String.ofList s, .nothing)
  | _ :: value => (String.ofList (s.takeWhile (· != '=')), .equated value)

/-- A value that is given to an option by a spelling with one dash or two. -/
def Given.after (spelling : String) : Given → Given
  | .equated value => if spelling.length = 2 then .joined value else .equated value
  | given => given

/-- The options that a text may stand for, each with its spelling.  With two dashes it may be the
start of a spelling; with one dash, the value follows the letter at once. -/
def matchesOf (i : Interface) (s : List Char) : List (String × Choice × Given) :=
  match s with
  | '-' :: '-' :: _ =>
    let (start, given) := cutValue s
    (i.spelled.filter fun e => e.1.startsWith start).map fun e => (e.1, e.2, given)
  | '-' :: letter :: value =>
    let short := String.ofList ['-', letter]
    (i.spelled.filter fun e => e.1 == short).map fun e => (e.1, e.2, .joined value)
  | _ => []

def wordOf (i : Interface) (s : String) : Except Stop Word :=
  match s.toList, i.find? s with
  | _, some c => .ok (.choice c .nothing)
  | '-' :: c :: rest, none =>
    let chars := '-' :: c :: rest
    let (spelling, given) := cutValue chars
    match i.find? spelling with
    | some c => .ok (.choice c (given.after spelling))
    | none =>
      match matchesOf i chars with
      | [(_, c, given)] => .ok (.choice c given)
      | [] =>
        .ok (if isNegativeNumber chars || chars.contains ' ' then .plain s else .stray s)
      | several =>
        let spellings := ", ".intercalate (several.map (·.1))
        .error (.failure s!"ambiguous option: {s} could match {spellings}")
  | _, none => .ok (.plain s)

def wordsOf (i : Interface) : List String → Except Stop (List Word)
  | [] => .ok []
  | s :: rest =>
    if s = divider then .ok (.divider :: rest.map .plain)
    else do return (← wordOf i s) :: (← wordsOf i rest)

structure Taken where
  input : Option String := none
  output : Datum := .null
  config : Datum := .null
  switch : Bool := false
  logLevel : Datum := .text usualLogLevel
  /-- The words that nothing took. -/
  left : List String := []

def failureAt (i : Interface) (c : Choice) (message : String) : Stop :=
  .failure s!"argument {i.name c}: {message}"

/-- The failure of an option that got a value and takes none. -/
def refusal (i : Interface) (c : Choice) (value : List Char) : Stop :=
  failureAt i c s!"ignored explicit argument {quote (String.ofList value)}"

/-- The failure of an option that takes a value and got none. -/
def lack (i : Interface) (c : Choice) : Stop := failureAt i c "expected one argument"

/-- The value of an option.  The divider counts for nothing, so an option that is given it has an
empty list of values. -/
def valueOf (s : String) : Datum := if s = divider then .list [] else .text s

def setValue (i : Interface) (t : Taken) (c : Choice) (value : String) : Except Stop Taken :=
  let given := valueOf value
  match c with
  | .output => .ok { t with output := given }
  | .config => .ok { t with config := given }
  | .logLevel =>
    if value = divider || logLevels.contains value then .ok { t with logLevel := given }
    else
      let known := ", ".intercalate (logLevels.map quote)
      .error (failureAt i c s!"invalid choice: {quote value} (choose from {known})")
  | .help | .switch => .ok t

def setPlain (t : Taken) : Choice → Except Stop Taken
  | .help => .error .help
  | .switch => .ok { t with switch := true }
  | _ => .ok t

/-- What comes of the letters after the letter of the help option.  Each must be an option, and
one that takes a value takes the letters after it or the word after them all.  Only when all are
used rightly is help given. -/
def readLetters (i : Interface) (next : List Word) : List Char → Stop
  | [] => refusal i .help []
  | letter :: rest =>
    match i.find? (String.ofList ['-', letter]) with
    | none => refusal i .help (letter :: rest)
    | some c =>
      match Interface.value? c, rest, next with
      | none, [], _ => .help
      | none, rest, _ => readLetters i next rest
      | some _, [], .plain _ :: _ => .help
      | some _, [], _ => lack i c
      | some _, _ :: _, _ => .help

/-- Uses words from left to right. -/
def take (i : Interface) (t : Taken) : List Word → Except Stop Taken
  | [] => .ok t
  | .stray s :: rest => take i { t with left := t.left ++ [s] } rest
  | .choice c given :: rest =>
    match Interface.value? c, given with
    | none, .nothing => do take i (← setPlain t c) rest
    | none, .joined letters => .error (readLetters i rest letters)
    | none, .equated value => .error (refusal i c value)
    | some _, .joined value | some _, .equated value => do
      take i (← setValue i t c (String.ofList value)) rest
    | some _, .nothing =>
      match rest with
      | .plain value :: rest => do take i (← setValue i t c value) rest
      | _ => .error (lack i c)
  | .plain s :: rest =>
    match t.input, rest with
    | none, .divider :: rest => take i { t with input := some s } rest
    | none, rest => take i { t with input := some s } rest
    | some _, rest => take i { t with left := t.left ++ [s] } rest
  | .divider :: rest =>
    match t.input, rest with
    | none, .plain s :: rest => take i { t with input := some s } rest
    | _, rest => take i { t with left := t.left ++ [divider] } rest

def readArguments (i : Interface) (args : List String) : Except Stop Options := do
  let t ← take i {} (← wordsOf i args)
  match t.input with
  | none => throw (.failure s!"the following arguments are required: {i.input}")
  | some input =>
    if t.left.isEmpty then
      return {
        input, output := t.output, config := t.config, switch := t.switch
        logLevel := t.logLevel }
    else
      let left := " ".intercalate t.left
      throw (.failure s!"unrecognized arguments: {left}")

end TouchProbe.CommandLine
