import Std.Time.DateTime.Timestamp
import TouchProbe.CommandLine.Generate
import TouchProbe.CommandLine.Import

/-! # The programs on real files

The first argument chooses the program.  All files that the other arguments name are read before
the run, which is a pure function, and the files that it changed are written after it.
-/

namespace TouchProbe.Main

def toolOf? : String → Option CommandLine.Tool
  | "generate" => some CommandLine.Generate.tool
  | "import" => some CommandLine.Import.tool
  | _ => none

/-- The text of the way from the root. -/
def realName (way : List String) : String := "/" ++ "/".intercalate way

/-- What really stands at the end of a way; nothing if it cannot be read. -/
def realEntry? (way : List String) : IO (Option Entry) := do
  try
    let place ← IO.FS.realPath (realName way)
    if ← place.isDir then return some .folder
    return some (.file (← IO.FS.readBinFile place).toList)
  catch _ => return none

/-- Adds what really stands at an address and on the way to it. -/
def addReal (t : FileTree) (a : Address) : IO FileTree := do
  let mut t := t
  for n in List.range a.names.length do
    let way := t.way { a with names := a.names.take (n + 1) }
    if (t.lookup? way).isNone then
      if let some e ← realEntry? way then t := t.set way e
  return t

/-- The addresses that arguments may mean: each as a whole, after an equals sign, and after a
dash and a letter. -/
def addressesIn (arg : String) : List Address :=
  let chars := arg.toList
  [chars, (chars.dropWhile (· != '=')).drop 1, chars.drop 2].map fun s =>
    Address.parse (String.ofList s)

def writeReal (way : List String) (bytes : List UInt8) : IO Unit := do
  let name := realName way
  IO.FS.createDirAll (realName way.dropLast)
  IO.FS.writeBinFile (name ++ ".tmp") ⟨bytes.toArray⟩
  IO.FS.rename (name ++ ".tmp") name

def writeChanges (before after : FileTree) : IO Unit := do
  for (way, e) in after.entries do
    if before.lookup? way != some e then
      match e with
      | .folder => IO.FS.createDirAll (realName way)
      | .file bytes => writeReal way bytes

/-- The time, to the microsecond. -/
def now : IO (Except CalendarFault Moment) := do
  let t ← Std.Time.Timestamp.now
  return Calendar.ofMicroseconds (Int.fdiv t.toNanosecondsSinceUnixEpoch.val 1000)

/-- Twelve digits, from a random start on. -/
def endings : IO (Nat → String) := do
  let bytes ← IO.getRandomBytes 6
  let start := bytes.toList.foldl (fun n b => 256 * n + b.toNat) 0
  return fun n => String.ofList (Text.hexDigits 12 ((start + n) % 2 ^ 48))

def realConsole (files : FileTree) : IO Console := do
  let time ← now
  return {
    files
    time := fun layout => (time.map layout.time).toOption.getD ""
    process := 0
    isTerminal := ← (← IO.getStderr).isTty
    freshEnding := ← endings }

def runTool (tool : CommandLine.Tool) (args : List String) : IO UInt32 := do
  let here := (Address.parse (← IO.currentDir).toString).names
  let before ← (args.flatMap addressesIn).foldlM addReal (FileTree.emptyAt here)
  let (result, c) := (tool.run args).run.run (← realConsole before)
  let (status, c) := match result with
    | .ok status => (status, c)
    | .error f => (1, c.crash (.error "Fault" f.message))
  try
    writeChanges before c.files
  catch e =>
    IO.eprint c.err
    IO.eprintln s!"Error: {e}"
    return 1
  IO.print c.out
  IO.eprint c.err
  return UInt32.ofNat status

end TouchProbe.Main

def main (args : List String) : IO UInt32 := do
  match args with
  | name :: rest =>
    match TouchProbe.Main.toolOf? name with
    | some tool => TouchProbe.Main.runTool tool rest
    | none =>
      IO.eprintln s!"unknown program: {name}"
      return 2
  | [] =>
    IO.eprintln "usage: touchprobe generate|import ..."
    return 2
