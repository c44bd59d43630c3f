import TouchProbe.Fault
import TouchProbe.FileTree.Address

/-! # File trees

All files and folders, as a value.  Every file and every folder has one entry, named by the way to
it from the root.  One of the folders is the one in which addresses start.

Writing is all or nothing: either the file holds exactly the new bytes, or every file is as it
was.  In both cases only folders on the way to the file may have come into being, so a change
gives the tree after it also when it fails.
-/

namespace TouchProbe

inductive Entry where
  | file (bytes : List UInt8)
  | folder
  deriving DecidableEq, Repr

structure FileTree where
  /-- The way to the folder in which addresses start. -/
  here : List String
  entries : List (List String × Entry)

namespace FileTree

inductive Found where
  | file (bytes : List UInt8)
  | folder
  | missing
  /-- A file stands on the way. -/
  | blocked
  deriving DecidableEq, Repr

/-- The entry at the end of a way; the root is a folder. -/
def lookup? (t : FileTree) (way : List String) : Option Entry :=
  if way.isEmpty then some .folder else t.entries.lookup way

/-- What is found by following names from a folder, which is given by the way to it, last name
first. -/
def follow (t : FileTree) (here : List String) : List String → Found
  | [] => .folder
  | n :: rest =>
    let next := if n = ".." then here.drop 1 else n :: here
    match t.lookup? next.reverse, rest with
    | some .folder, rest => follow t next rest
    | some (.file bytes), [] => .file bytes
    | some (.file _), _ :: _ => .blocked
    | none, _ => .missing

/-- The way to the folder in which an address starts. -/
def base (t : FileTree) (a : Address) : List String := if a.rooted then [] else t.here

def way (t : FileTree) (a : Address) : List String := Address.direct (t.base a ++ a.names)

/-- What is found at an address; nothing at one that no file can have. -/
def find (t : FileTree) (a : Address) : Found :=
  if a.fault?.isSome then .missing else t.follow (t.base a).reverse a.names

def has (t : FileTree) (a : Address) : Bool :=
  match t.find a with
  | .file _ | .folder => true
  | .missing | .blocked => false

def set (t : FileTree) (way : List String) (e : Entry) : FileTree :=
  { t with entries := (way, e) :: t.entries.filter (·.1 != way) }

theorem lookup_filter_of_ne (es : List (List String × Entry)) {v w : List String} (h : v ≠ w) :
    (es.filter (·.1 != w)).lookup v = es.lookup v := by
  induction es with
  | nil => rfl
  | cons e rest ih =>
    obtain ⟨u, f⟩ := e
    by_cases hw : u = w
    · simp [List.lookup_cons, hw, beq_false_of_ne h, ih]
    · by_cases hv : v = u
      · subst hv
        simp [hw]
      · simp [List.lookup_cons, hw, beq_false_of_ne hv, ih]

/-- Setting one entry does not touch the others. -/
theorem lookup?_set (t : FileTree) {w : List String} (hw : w ≠ []) (e : Entry) (v : List String) :
    (t.set w e).lookup? v = if v = w then some e else t.lookup? v := by
  by_cases h : v = w
  · subst h
    simp [lookup?, set, hw]
  · simp [lookup?, set, List.lookup_cons, h, beq_false_of_ne h, lookup_filter_of_ne _ h]

/-- The tree with a folder at the end of a way, unless something stands there. -/
def addFolder (t : FileTree) (way : List String) : FileTree :=
  if (t.lookup? way).isSome then t else t.set way .folder

/-- The tree with all folders on the way to an address, and one at the address itself. -/
def addFolders (t : FileTree) (a : Address) : FileTree :=
  (List.range a.names.length).foldl
    (fun t n => t.addFolder (t.way { a with names := a.names.take (n + 1) })) t

/-- The tree that has nothing but the folder at the end of a way, in which addresses start. -/
def emptyAt (here : List String) : FileTree :=
  FileTree.addFolders ⟨here, []⟩ ⟨true, here⟩

/-- What comes of a change: the tree after it, and the fault that ended it, if one did. -/
abbrev Outcome := FileTree × Except Fault Unit

def unchanged (t : FileTree) (f : Fault) : Outcome := (t, .error f)

/-- A change that goes on from the tree that another one left, unless that failed. -/
def andThen (o : Outcome) (next : FileTree → Outcome) : Outcome :=
  match o with
  | (t, .ok ()) => next t
  | failed => failed

@[simp] theorem andThen_error (t : FileTree) (f : Fault) (next : FileTree → Outcome) :
    andThen (t, .error f) next = (t, .error f) := rfl

@[simp] theorem andThen_ok (t : FileTree) (next : FileTree → Outcome) :
    andThen (t, .ok ()) next = next t := rfl

/-- Makes a folder at an address whose folder around is there; one that is there stays. -/
def makeLast (t : FileTree) (a : Address) : Outcome :=
  match t.find a with
  | .folder => (t, .ok ())
  | .file _ => t.unchanged (.alreadyExists a.text)
  | .blocked => t.unchanged (.notDirectory a.text)
  | .missing =>
    if t.find a.parent = .folder then (t.addFolder (t.way a), .ok ())
    else t.unchanged (.noSuchPath a.text)

/-- Makes a folder at the end of some names, given last name first, and the folders on the way
that are missing.  Those that were made before a fault stay. -/
def makeAll (t : FileTree) (rooted : Bool) : List String → Outcome
  | [] => (t, .ok ())
  | n :: around =>
    let a : Address := ⟨rooted, (n :: around).reverse⟩
    match t.makeLast a with
    | (t, .error (.noSuchPath _)) => andThen (makeAll t rooted around) fun t => t.makeLast a
    | o => o

/-- Makes a folder at an address, and the folders on the way that are missing. -/
def makeFolder (t : FileTree) (a : Address) : Outcome :=
  match a.fault? with
  | some f => t.unchanged f
  | none => t.makeAll a.rooted a.names.reverse

/-- Writes a file at an address, and makes the folders on the way that are missing. -/
def write (t : FileTree) (a : Address) (bytes : List UInt8) : Outcome :=
  andThen (t.makeFolder a.parent) fun t =>
    match a.fault?, t.find a with
    | some f, _ => t.unchanged f
    | none, .folder => t.unchanged (.notWritten a.text)
    | none, _ => (t.set (t.way a) (.file bytes), .ok ())

def writeText (t : FileTree) (a : Address) (encoding : Text.Encoding) (s : String) : Outcome :=
  match Text.encode encoding s with
  | .ok bytes => t.write a bytes
  | .error f => t.unchanged (.unencodable f)

/-- Adds bytes at the end of the file at an address, which comes into being if it is missing. -/
def append (t : FileTree) (a : Address) (bytes : List UInt8) : Outcome :=
  match a.fault?, t.find a with
  | some f, _ => t.unchanged f
  | none, .folder => t.unchanged (.isDirectory a.text)
  | none, .file old => (t.set (t.way a) (.file (old ++ bytes)), .ok ())
  | none, .blocked => t.unchanged (.notDirectory a.text)
  | none, .missing =>
    if t.find a.parent = .folder then (t.set (t.way a) (.file bytes), .ok ())
    else t.unchanged (.noSuchPath a.text)

/-- The name of an entry in a listing: the name of a folder ends with a slash. -/
def listedName (names : List String) (e : Entry) : String :=
  let name := "/".intercalate names
  match e with
  | .folder => name ++ "/"
  | .file _ => name

/-- All entries below the folder in which addresses start, in the order of their names. -/
def listing (t : FileTree) : List (String × Entry) :=
  let below := t.entries.filterMap fun e =>
    match t.here.isPrefixOf? e.1 with
    | some [] | none => none
    | some names => some (listedName names e.2, e.2)
  below.mergeSort fun a b => decide (a.1 ≤ b.1)

end FileTree

end TouchProbe
