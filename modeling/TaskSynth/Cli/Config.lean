import TaskSynth.FileTree.Basic
import TaskSynth.Log
import TaskSynth.Toml.Reader

namespace TaskSynth.Cli

structure Config where
  inputs : List String
  stepCommand : Option String
  headerFile : Option String
  internalDir : Option String
  internalPackage : Option String
  manifestDir : Option String
  skipKustomization : Bool
  deriving DecidableEq

structure Files where
  read : String → Except FileTree.Error String
  isFile : String → Bool

def Files.ofTree (t : FileTree) : Files := ⟨t.read, t.isFile⟩

namespace Config

def empty : Config := ⟨[], none, none, none, none, none, false⟩

/-- Takes one setting; a key that is not known is an error. -/
def set (c : Config) : String × Toml.Value → Option Config
  | ("inputs", v) => v.strings?.map fun x => { c with inputs := x }
  | ("step-command", v) => v.string?.map fun x => { c with stepCommand := some x }
  | ("header-file", v) => v.string?.map fun x => { c with headerFile := some x }
  | ("internal-dir", v) => v.string?.map fun x => { c with internalDir := some x }
  | ("internal-package", v) => v.string?.map fun x => { c with internalPackage := some x }
  | ("manifest-dir", v) => v.string?.map fun x => { c with manifestDir := some x }
  | ("skip-kustomization", v) => v.bool?.map fun x => { c with skipKustomization := x }
  | _ => none

def parse (text : String) : Option Config := do
  (← Toml.parse text).foldlM set empty

inductive Error where
  | unread (path : String) (cause : FileTree.Error)
  | malformed (path : String)
  deriving DecidableEq

def Error.message : Error → String
  | unread path cause => "failed to read config file '" ++ path ++ "': " ++ cause.message
  | malformed path => "failed to parse config file '" ++ path ++ "'"

def load (files : Files) (path : String) : Logged (Except Error Config) :=
  match files.read path with
  | .error e => .of (.error (.unread path e))
  | .ok text =>
    match parse text with
    | some c => ⟨[.loadedConfig path], .ok c⟩
    | none => .of (.error (.malformed path))

def localFile : String := "./.tektasker.toml"

def homeFile (home : String) : String :=
  FileTree.join (FileTree.join home ".config") "tektasker.toml"

def places (home given : Option String) : List String :=
  match given with
  | some path => [path]
  | none => localFile :: (home.map homeFile).toList

def discover (files : Files) (home : Option String) : Option String :=
  if files.isFile localFile then some localFile
  else (home.map homeFile).filter files.isFile

/-- The settings found; those of a file that is no good are left out. -/
def find (files : Files) (home : Option String) : Logged Config :=
  match discover files home with
  | none => .of empty
  | some path =>
    let loaded := load files path
    match loaded.value with
    | .ok c => ⟨loaded.events, c⟩
    | .error _ => ⟨loaded.events ++ [.ignoredConfig path], empty⟩

/-- The settings of a given file, or else those found. -/
def select (files : Files) (home given : Option String) : Logged (Except Error Config) :=
  match given with
  | some path => load files path
  | none => (find files home).map .ok

end Config

end TaskSynth.Cli
