import TouchProbe.Document.Store
import TouchProbe.FileTree.Basic
import TouchProbe.Program.Reader
import TouchProbe.Yaml.Meaning
import TouchProbe.Yaml.Writer

/-! # Reading and writing files

Programs, YAML files and sequence documents in a file tree.  Texts are read as UTF-8, with every
kind of line end read as one newline.
-/

namespace TouchProbe.FileTree

def encodingOf (d : Datum) : Except Fault Text.Encoding :=
  match d with
  | .text s =>
    match Text.encode .utf8 s, Text.Encoding.ofName? s with
    | .error f, _ => .error (.unencodable f)
    | .ok bytes, named =>
      if bytes.contains 0 then .error .nullInName
      else match named with
        | some e => .ok e
        | none => .error (if Text.isByteCoding s then .byteCoding s else .unknownEncoding s)
  | _ => .error .wrongKind

def loadYaml (t : FileTree) (a : Address) : Except Fault Datum :=
  match t.find a with
  | .file bytes =>
    match Yaml.read bytes with
    | .ok d => .ok d
    | .error (.fault f) => .error f
    | .error .illFormed | .error .unfinished => .error (.badYaml a.text)
  | _ => .error (.missingFile "YAML file" a.text)

def saveYaml (t : FileTree) (a : Address) (d : Datum) : Outcome :=
  t.writeText a .utf8 (Yaml.write d)

def programText (t : FileTree) (a : Address) : Except Fault String :=
  match t.find a with
  | .file bytes => do
    let text ← (Text.decode bytes).mapError .undecodable
    return String.ofList (Text.universalNewlines text.toList)
  | .folder => .error (.isDirectory a.text)
  | .missing | .blocked => .error (.missingFile "G-code file" a.text)

def loadProgram (t : FileTree) (a : Address) : Except Fault Program.Reading :=
  (t.programText a).map Program.read

def loadSequence (t : FileTree) (a : Address) : Except Fault Settings :=
  if !t.has a then .error (.missingFile "Sequence file" a.text)
  else
    match t.loadYaml a with
    | .ok d => Document.toSequence a.text d
    | .error (.badYaml path) => .error (.badSequenceYaml path)
    | .error f => .error f

def saveSequence (t : FileTree) (a : Address) (operations : List Probe) (settings : Settings) :
    Outcome :=
  match Document.ofSequence operations settings with
  | .ok d => t.saveYaml a d
  | .error f => t.unchanged f

end TouchProbe.FileTree
