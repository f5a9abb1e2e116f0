import Std.Time.Zoned
import TaskSynth.Cli.Command
import TaskSynth.Cli.LogLine
import TaskSynth.Template.Render

namespace TaskSynth.Main

def causeOf : IO.Error → FileTree.Error
  | .noFileOrDirectory .. => .notFound
  | .alreadyExists .. => .exists
  | .inappropriateType _ code _ => if code == 20 then .notDirectory else .isDirectory
  | .permissionDenied _ 13 _ => .denied
  | .resourceExhausted _ 28 _ => .noSpace
  | e => .other (toString e)

def attempt (act : IO Unit) : IO (Except FileTree.Error Unit) := do
  try
    act
    return .ok ()
  catch e => return .error (causeOf e)

def readText (path : String) : IO (Except FileTree.Error String) := do
  try
    match String.fromUTF8? (← IO.FS.readBinFile path) with
    | some text => return .ok text
    | none => return .error .notText
  catch e => return .error (causeOf e)

def fetch (paths : List String) : IO Cli.Files := do
  let texts ← paths.mapM fun p => return (p, ← readText p)
  let read (path : String) := (texts.lookup path).getD (.error .notFound)
  let isFile (path : String) : Bool :=
    match read path with
    | .ok _ => true
    | .error .notText => true
    | .error .denied => true
    | .error (.other _) => true
    | .error _ => false
  return ⟨read, isFile⟩

def tell (line : String) : IO Unit := do (← IO.getStderr).putStrLn line

def tellEvents (debug : Bool) (events : List Log.Event) : IO Unit :=
  (Cli.logLines debug events).forM tell

def fail (e : Cli.Failure) : IO UInt32 := do
  tell ("✗ " ++ e.message)
  return 1

def isDirectory (path : String) : IO Bool := do
  try
    discard (IO.FS.realPath (path ++ "/."))
    return true
  catch _ => return false

def ensureDirectory (path : String) : IO (Except FileTree.Error Unit) := do
  match ← attempt (IO.FS.createDir path) with
  | .ok () => return .ok ()
  | .error e => return if ← isDirectory path then .ok () else .error e

/-- Makes a directory and those that it lies in, where they are missing. The names come last
first. -/
def makeDirectories (absolute : Bool) : List String → IO (Except FileTree.Error Unit)
  | [] => return .ok ()
  | name :: outer => do
    let path := FileTree.textOf absolute (name :: outer).reverse
    match ← ensureDirectory path with
    | .error .notFound =>
      match ← makeDirectories absolute outer with
      | .ok () => ensureDirectory path
      | .error e => return .error e
    | r => return r

def writeFile (path content : String) : IO (Except FileTree.Error Unit) := do
  let p := FileTree.Path.ofString path
  match ← makeDirectories p.absolute p.steps.reverse.tail with
  | .ok () => attempt (IO.FS.writeFile path content)
  | .error e => return .error e

/-- Writes or prints one artifact; the answer is the path written. -/
def deliver (rule : Output.Rule) (a : Output.Artifact) :
    IO (Except Output.Error (Option String)) := do
  match rule.destination a with
  | .error e => return .error e
  | .ok none =>
    let stdout ← IO.getStdout
    return (← attempt (stdout.putStr a.content)).mapError .notPrinted |>.map fun _ => none
  | .ok (some path) =>
    return (← writeFile path a.content).mapError (.notWritten path) |>.map fun _ => some path

def deliverAll (debug : Bool) (r : Output.Run.Rendered) :
    IO (Except Output.Error (List String)) := do
  tellEvents debug [.writing r.name r.artifacts.length]
  let mut written := []
  for a in r.artifacts do
    match ← deliver r.rule a with
    | .error e => return .error e
    | .ok path =>
      tellEvents debug (path.toList.map .wroteArtifact)
      written := written ++ path.toList
  return .ok written

def perform (debug dryRun : Bool) (ps : List Package) (js : List Output.Job) : IO UInt32 := do
  let rendered := Output.Run.renderAll ps js
  tellEvents debug rendered.events
  match rendered.value with
  | .error e => fail (.run e)
  | .ok rs =>
    let mut written := []
    for r in rs do
      match ← deliverAll debug r with
      | .error e => return ← fail (.run (.output e))
      | .ok paths => written := written ++ paths
    if !dryRun then IO.print (Cli.lines (Cli.report ⟨written, 0⟩))
    return 0

def generate (debug : Bool) (s : Cli.Setting) (p : Cli.Product) : IO UInt32 := do
  let today := toString (← Std.Time.PlainDate.now).year.toInt
  let files ← fetch (s.sources ++ (p.headerFile?.or s.config.headerFile).toList)
  let plan := Cli.plan Template.engine files s today p
  tellEvents debug plan.events
  plan.warnings.forM fun w => tell ("! " ++ w)
  match plan.work with
  | .error e => fail e
  | .ok (ps, js) => perform debug s.dryRun ps js

def run (o : Cli.Options) : IO UInt32 := do
  let home ← IO.getEnv "HOME"
  let config := Cli.Config.select (← fetch (Cli.Config.places home o.config)) home o.config
  tellEvents o.debug config.events
  match config.value, o.request with
  | .error e, _ => fail (.config e)
  | .ok c, .generate p => generate o.debug ⟨o.dryRun, o.inputs, c⟩ p
  | .ok _, .markers name target =>
    match Cli.reference name target with
    | .ok ls =>
      IO.print (Cli.lines ls)
      return 0
    | .error e => fail e

end TaskSynth.Main

def main (args : List String) : IO UInt32 := do
  match TaskSynth.Cli.Options.parse args with
  | .ok o => TaskSynth.Main.run o
  | .error .version =>
    IO.print TaskSynth.Cli.versionLine
    return 0
  | .error .help =>
    IO.print TaskSynth.Cli.usage
    return 0
  | .error .usage =>
    TaskSynth.Main.tell TaskSynth.Cli.usage
    return 2
