import TaskSynth.FileTree.Basic
import TaskSynth.Snapshot.Reader
import TaskSynth.Snapshot.Translation

namespace TaskSynth.Snapshot

inductive Error where
  | unread (path : String) (cause : FileTree.Error)
  | malformed (path : String)

namespace Error

def message : Error → String
  | unread path cause => "failed to read snapshot '" ++ path ++ "': " ++ cause.message
  | malformed path => "failed to parse snapshot '" ++ path ++ "'"

end Error

def parseNamed (path text : String) : Except Error (List RawPackage) :=
  match parse text with
  | some packages => .ok packages
  | none => .error (.malformed path)

/-- The packages of one file, given how files are read. -/
def load (read : String → Except FileTree.Error String) (path : String) :
    Except Error (List RawPackage) :=
  match read path with
  | .ok text => parseNamed path text
  | .error e => .error (.unread path e)

/-- The packages of all files, in the order of the files. -/
def collect (read : String → Except FileTree.Error String) (paths : List String) :
    Except Error (List RawPackage) := do
  return (← paths.mapM (load read)).flatten

def translate : List RawPackage → Logged (List Package)
  | [] => .of []
  | p :: rest => do
    let p ← p.toPackage
    let ps ← translate rest
    return p :: ps

end TaskSynth.Snapshot
