import TaskSynth.FileTree.Basic
import TaskSynth.Log

namespace TaskSynth.Output

structure Artifact where
  packageDir : Option String
  path : String
  content : String
  deriving DecidableEq

def Artifact.rooted (path content : String) : Artifact := ⟨none, path, content⟩

inductive Rule where
  | stdout
  | directory (root : String)
  | artifacts
  deriving DecidableEq

inductive Error where
  | notWritten (path : String) (cause : FileTree.Error)
  | noPackageDir (path : String)
  | notPrinted (cause : FileTree.Error)
  deriving DecidableEq

namespace Error

def source? : Error → Option String
  | notWritten _ cause => some cause.message
  | noPackageDir _ => none
  | notPrinted cause => some cause.message

def message : Error → String
  | notWritten path cause => "failed to write '" ++ path ++ "': " ++ cause.message
  | noPackageDir path => "artifact '" ++ path ++ "' has no package directory"
  | notPrinted cause => "failed to write to stdout: " ++ cause.message

end Error

/-- The path that an artifact is written to; none if it is printed. -/
def Rule.destination (rule : Rule) (a : Artifact) : Except Error (Option String) :=
  match rule with
  | .stdout => .ok none
  | .directory root => .ok (some (FileTree.join root a.path))
  | .artifacts =>
    match a.packageDir with
    | some dir => .ok (some (FileTree.join dir a.path))
    | none => .error (.noPackageDir a.path)

/-- Standard output: the text printed, whether a part of a further character follows it, and how
many octets still fit if there is a limit. -/
structure Console where
  printed : String
  torn : Bool
  room : Option Nat
  deriving DecidableEq

namespace Console

def empty (room : Option Nat) : Console := ⟨"", false, room⟩

/-- The characters that fit into some octets, and whether a part of the next one does. -/
def fitting : Nat → List Char → List Char × Bool
  | _, [] => ([], false)
  | room, c :: rest =>
    if c.utf8Size ≤ room then
      let (fit, torn) := fitting (room - c.utf8Size) rest
      (c :: fit, torn)
    else ([], room ≠ 0)

/-- Prints a text, or as much of it as fits. -/
def print (c : Console) (s : String) : Console × Option FileTree.Error :=
  match c.room with
  | none => ({ c with printed := c.printed ++ s }, none)
  | some room =>
    if s.utf8ByteSize ≤ room then
      (⟨c.printed ++ s, false, some (room - s.utf8ByteSize)⟩, none)
    else
      let (fit, torn) := fitting room s.toList
      (⟨c.printed ++ String.ofList fit, torn, some 0⟩, some .full)

end Console

structure World where
  files : FileTree
  console : Console

/-- Writes or prints one artifact; the answer is the path written. -/
def Rule.deliver (rule : Rule) (a : Artifact) (w : World) :
    World × Except Error (Option String) :=
  match rule.destination a with
  | .error e => (w, .error e)
  | .ok none =>
    match w.console.print a.content with
    | (console, none) => ({ w with console := console }, .ok none)
    | (console, some e) => ({ w with console := console }, .error (.notPrinted e))
  | .ok (some path) =>
    match w.files.write path (.text a.content) with
    | (files, none) => ({ w with files := files }, .ok (some path))
    | (files, some e) => ({ w with files := files }, .error (.notWritten path e))

/-- Writes artifacts in their order up to the first failure; the answer is the paths written. -/
def Rule.write (rule : Rule) (w : World) :
    List Artifact → World × Logged (Except Error (List String))
  | [] => (w, .of (.ok []))
  | a :: rest =>
    match rule.deliver a w with
    | (w, .error e) => (w, .of (.error e))
    | (w, .ok path) =>
      let (w, r) := Rule.write rule w rest
      let done := path.toList
      (w, ⟨done.map .wroteArtifact ++ r.events, r.value.map (done ++ ·)⟩)

end TaskSynth.Output
