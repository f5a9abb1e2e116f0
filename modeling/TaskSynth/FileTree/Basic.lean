import TaskSynth.FileTree.Path

/-! Files and directories without links, seen from a working directory. -/
namespace TaskSynth

namespace FileTree

inductive Content where
  | text (s : String)
  | octets (bs : List UInt8)
  deriving DecidableEq

def Content.ofOctets (bs : List UInt8) : Content :=
  match String.fromUTF8? (ByteArray.mk bs.toArray) with
  | some s => text s
  | none => octets bs

def Content.toOctets : Content → List UInt8
  | text s => s.toUTF8.data.toList
  | octets bs => bs

inductive Entry where
  | file (c : Content)
  | directory
  deriving DecidableEq

/-- The names from the root down to an entry, the innermost first. -/
abbrev Location := List String

/-- Why a file or directory is not read or written; `other` is what a system adds of its own. -/
inductive Error where
  | notFound | exists | notDirectory | isDirectory | notText | nulInPath | full | denied | noSpace
  | other (text : String)
  deriving DecidableEq

def Error.message : Error → String
  | notFound => "No such file or directory (os error 2)"
  | «exists» => "File exists (os error 17)"
  | notDirectory => "Not a directory (os error 20)"
  | isDirectory => "Is a directory (os error 21)"
  | notText => "stream did not contain valid UTF-8"
  | nulInPath => "file name contained an unexpected NUL byte"
  | full => "failed to write whole buffer"
  | denied => "Permission denied (os error 13)"
  | noSpace => "No space left on device (os error 28)"
  | other text => text

end FileTree

/-- Entries by location. The root is a directory that is not listed. A system may refuse what is
asked of it: `room` is how many more octets its files can hold, if there is a limit, and what is
locked does not change, a file in its content and a directory in its names. -/
structure FileTree where
  current : FileTree.Location
  entries : List (FileTree.Location × FileTree.Entry)
  room : Option Nat
  locked : List FileTree.Location
  deriving DecidableEq

namespace FileTree

/-- Entries of which none is locked, with room for all that comes. -/
def ofEntries (current : Location) (entries : List (Location × Entry)) : FileTree :=
  ⟨current, entries, none, []⟩

def find? (t : FileTree) : Location → Option Entry
  | [] => some .directory
  | l => t.entries.lookup l

def put (t : FileTree) (l : Location) (e : Entry) : FileTree :=
  { t with
    entries :=
      if (t.entries.lookup l).isSome then
        t.entries.map fun x => if x.1 = l then (l, e) else x
      else t.entries ++ [(l, e)] }

def stepTo (l : Location) (name : String) : Location :=
  if name = "." then l else if name = ".." then l.tail else name :: l

/-- Follows names. All places on the way must be directories; the last one need not exist. -/
def walk (t : FileTree) (l : Location) : List String → Except Error Location
  | [] => .ok l
  | name :: rest =>
    match t.find? l with
    | none => .error .notFound
    | some (.file _) => .error .notDirectory
    | some .directory => walk t (stepTo l name) rest

def start (t : FileTree) (absolute : Bool) : Location := if absolute then [] else t.current

/-- Where names lead from the root or from the working directory. -/
def reach (t : FileTree) (absolute : Bool) (names : List String) : Except Error Location :=
  if names.any fun n => n.toList.elem '\x00' then .error .nulInPath
  else t.walk (t.start absolute) names

def locate (t : FileTree) (path : String) : Except Error Location :=
  let p := Path.ofString path
  if p.names.isEmpty && !p.absolute then .error .notFound else t.reach p.absolute p.names

def endsAsDirectory (path : String) : Bool := (Path.ofString path).trailing

def isDirectory (t : FileTree) (path : String) : Bool :=
  match t.locate path with
  | .ok l => t.find? l = some .directory
  | .error _ => false

def isFile (t : FileTree) (path : String) : Bool :=
  match t.locate path with
  | .ok l =>
    match t.find? l with
    | some (.file _) => !endsAsDirectory path
    | _ => false
  | .error _ => false

def read (t : FileTree) (path : String) : Except Error String := do
  match t.find? (← t.locate path) with
  | none => .error .notFound
  | some .directory => .error .isDirectory
  | some (.file c) =>
    if endsAsDirectory path then .error .notDirectory
    else match c with
      | .text s => .ok s
      | .octets _ => .error .notText

/-- Is the place locked? One where there is nothing yet is so with its directory. -/
def isLocked (t : FileTree) (l : Location) : Bool :=
  t.locked.elem (if (t.find? l).isSome then l else l.tail)

def sizeAt (t : FileTree) (l : Location) : Nat :=
  match t.find? l with
  | some (.file c) => c.toOctets.length
  | _ => 0

/-- Gives a file a content, in the room that its old content leaves. Where that is too little, the
file holds as much as fits. -/
def fill (t : FileTree) (l : Location) (c : Content) : FileTree × Option Error :=
  match t.room with
  | none => (t.put l (.file c), none)
  | some room =>
    let room := room + t.sizeAt l
    if c.toOctets.length ≤ room then
      ({ t.put l (.file c) with room := some (room - c.toOctets.length) }, none)
    else
      ({ t.put l (.file (.ofOctets (c.toOctets.take room))) with room := some 0 }, some .noSpace)

/-- Gives a file a content; the file is made if its directory is there. A path that asks for a
directory is refused even where there is none. -/
def overwrite (t : FileTree) (path : String) (c : Content) : FileTree × Option Error :=
  match t.locate path with
  | .error e => (t, some e)
  | .ok l =>
    if t.find? l = some .directory || endsAsDirectory path then (t, some .isDirectory)
    else if t.isLocked l then (t, some .denied)
    else t.fill l c

/-- Makes one directory, given the names that lead to it. -/
def makeDirectory (t : FileTree) (absolute : Bool) (names : List String) :
    Except Error FileTree := do
  let l ← t.reach absolute names
  match t.find? l with
  | some _ => .error .exists
  | none => if t.isLocked l then .error .denied else .ok (t.put l .directory)

def leadsToDirectory (t : FileTree) (absolute : Bool) (names : List String) : Bool :=
  match t.reach absolute names with
  | .ok l => t.find? l = some .directory
  | .error _ => false

def ensureDirectory (t : FileTree) (absolute : Bool) (names : List String) :
    FileTree × Option Error :=
  match t.makeDirectory absolute names with
  | .ok t => (t, none)
  | .error e => (t, if t.leadsToDirectory absolute names then none else some e)

/-- Makes a directory and those that it lies in, where they are missing. The names come last
first. What was made before an error stays. -/
def makeDirectories (t : FileTree) (absolute : Bool) : List String → FileTree × Option Error
  | [] => (t, none)
  | name :: outer =>
    let names := (name :: outer).reverse
    match t.makeDirectory absolute names with
    | .error .notFound =>
      match makeDirectories t absolute outer with
      | (t, none) => t.ensureDirectory absolute names
      | (t, some e) => (t, some e)
    | _ => t.ensureDirectory absolute names

/-- Writes a file and makes the directories that it lies in. -/
def write (t : FileTree) (path : String) (c : Content) : FileTree × Option Error :=
  let p := Path.ofString path
  match t.makeDirectories p.absolute p.steps.reverse.tail with
  | (t, some e) => (t, some e)
  | (t, none) => t.overwrite path c

end FileTree

end TaskSynth
