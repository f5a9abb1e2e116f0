import TaskSynth.Cli.Config
import TaskSynth.Cli.Options
import TaskSynth.Cli.Reference
import TaskSynth.Output.Run
import TaskSynth.Snapshot.Collection

namespace TaskSynth.Cli

inductive Failure where
  | config (e : Config.Error)
  | noInputs
  | snapshot (e : Snapshot.Error)
  | noOutputDir
  | command (e : Manifest.CommandError)
  | header (e : Binding.LicenseHeader.Unread)
  | unknownTarget (e : Marker.Error)
  | unknownMarker (name : String) (target : Marker.Target)
  | run (e : Output.Run.Error)

namespace Failure

/-- A message and, where it has a cause of its own, the cause after it. -/
def chain (message : String) : Option String → String
  | some source => message ++ ": " ++ source
  | none => message

def manifestMessage : Manifest.Error → String
  | .schema e => chain e.message e.source?
  | .command e => e.message

/-- The text of a failure. Where a text could not be read, it says which, and no more. -/
def message : Failure → String
  | config e => e.message
  | noInputs => "no package snapshot given: use -i/--input or \x60inputs\x60 in .tektasker.toml"
  | snapshot (.unread path cause) =>
    chain (Snapshot.Error.unread path cause).message (some cause.message)
  | snapshot e => e.message
  | noOutputDir => "an output directory is required unless --dry-run is set"
  | command (.invalid text _) => "invalid step command template '" ++ text ++ "'"
  | command e => e.message
  | header e =>
    "failed to load the license header: " ++ chain e.message (some e.cause.message)
  | unknownTarget e => "invalid marker target: " ++ e.message
  | unknownMarker name target => "marker not found: " ++ name ++ " on a " ++ target.name
  | run (.manifest e) => manifestMessage e
  | run (.output e) => chain e.message e.source?

end Failure

/-- What a command works with. -/
structure Setting where
  dryRun : Bool
  inputs : List String
  config : Config

/-- Inputs on the command line replace those of the settings. -/
def Setting.sources (s : Setting) : List String :=
  if s.inputs.isEmpty then s.config.inputs else s.inputs

def defaultInternalDir : String := "internal/"

def defaultInternalPackage : String := "tekton"

def packages (files : Files) (s : Setting) : Except Failure (Logged (List Package)) :=
  if s.sources.isEmpty then .error .noInputs
  else match Snapshot.collect files.read s.sources with
    | .ok raw => .ok (Snapshot.translate raw)
    | .error e => .error (.snapshot e)

/-- A warning when there is nothing to generate from. -/
def warnings (ps : List Package) : List String :=
  if ps.any fun p => p.task.isSome then []
  else ["no package carries a +tektasker:task marker, nothing to generate"]

def manifestRule (s : Setting) (outputDir : Option String) : Except Failure Output.Rule :=
  if s.dryRun then .ok .stdout
  else match outputDir.or s.config.manifestDir with
    | some dir => .ok (.directory dir)
    | none => .error .noOutputDir

def manifestJobs (engine : Manifest.Engine) (s : Setting) (outputDir template : Option String)
    (skipKustomization : Bool) : Except Failure (List Output.Job) := do
  let rule ← manifestRule s outputDir
  let text := (template.or s.config.stepCommand).getD Manifest.defaultCommand
  match engine.parse text with
  | .ok c =>
    .ok [⟨.manifests c (skipKustomization || s.config.skipKustomization), rule⟩]
  | .error e => .error (.command e)

/-- The licence header; the year stands in for the one of today. -/
def header (files : Files) (s : Setting) (headerFile year : Option String) (today : String) :
    Except Failure Binding.LicenseHeader :=
  match headerFile.or s.config.headerFile with
  | none => .ok .none
  | some path => (Binding.LicenseHeader.load files.read path (year.getD today)).mapError .header

/-- The name of the package that the support files declare. -/
def supportPackage (s : Setting) (packageName : Option String) : String :=
  (packageName.or s.config.internalPackage).getD defaultInternalPackage

/-- The directory of the support files: one for the package, named for it. The name is found here
once more. -/
def supportDir (s : Setting) (dir packageName : Option String) : String :=
  let outer := (dir.or s.config.internalDir).getD defaultInternalDir
  let name := (packageName.or s.config.internalPackage).getD defaultInternalPackage
  FileTree.join outer name

def bindingRules (s : Setting) (dir packageName : Option String) : Output.Rule × Output.Rule :=
  if s.dryRun then (.stdout, .stdout) else (.artifacts, .directory (supportDir s dir packageName))

def bindingJobs (s : Setting) (dir packageName : Option String) (header : Binding.LicenseHeader) :
    List Output.Job :=
  let (bindings, support) := bindingRules s dir packageName
  [⟨.bindings header, bindings⟩, ⟨.support (supportPackage s packageName) header, support⟩]

def jobs (engine : Manifest.Engine) (files : Files) (s : Setting) (today : String) :
    Product → Except Failure (List Output.Job)
  | .manifests outputDir template skip => manifestJobs engine s outputDir template skip
  | .bindings dir packageName headerFile year => do
    .ok (bindingJobs s dir packageName (← header files s headerFile year today))

def report (s : Output.Run.Summary) : List String :=
  s.written.map item ++ ["✓ generated " ++ toString s.written.length ++ " file(s)"]

structure Outcome where
  failure : Option Failure
  warnings : List String
  events : List Log.Event
  world : Output.World

/-- Prints lines; standard output has no limit here. -/
def printLines (w : Output.World) (ls : List String) : Output.World :=
  { w with console := (w.console.print (lines ls)).1 }

/-- Runs jobs for packages. A dry run tells nothing but what it prints. -/
def runJobs (s : Setting) (ps : List Package) (js : List Output.Job) (w : Output.World) : Outcome :=
  let (w, r) := Output.run ps js w
  match r.value with
  | .error e => ⟨some (.run e), [], r.events, w⟩
  | .ok summary => ⟨none, [], r.events, if s.dryRun then w else printLines w (report summary)⟩

/-- What is to be done, or why nothing is; and what is told before it. -/
structure Plan where
  work : Except Failure (List Package × List Output.Job)
  warnings : List String
  events : List Log.Event

/-- The packages are read before anything is made of the options of the product. -/
def plan (engine : Manifest.Engine) (files : Files) (s : Setting) (today : String)
    (p : Product) : Plan :=
  match packages files s with
  | .error e => ⟨.error e, [], []⟩
  | .ok loaded =>
    ⟨(jobs engine files s today p).map fun js => (loaded.value, js), warnings loaded.value,
      loaded.events⟩

def generate (engine : Manifest.Engine) (s : Setting) (today : String) (p : Product)
    (w : Output.World) : Outcome :=
  let plan := plan engine (.ofTree w.files) s today p
  match plan.work with
  | .error e => ⟨some e, plan.warnings, plan.events, w⟩
  | .ok (ps, js) =>
    let o := runJobs s ps js w
    { o with warnings := plan.warnings, events := plan.events ++ o.events }

def reference (name : Option String) (target : String) : Except Failure (List String) :=
  match name with
  | none => .ok overview
  | some name =>
    match Marker.Target.parse target with
    | .error e => .error (.unknownTarget e)
    | .ok t =>
      match Marker.lookup name t with
      | some d => .ok (describe d)
      | none => .error (.unknownMarker name t)

def answer (engine : Manifest.Engine) (s : Setting) (today : String) (r : Request)
    (w : Output.World) : Outcome :=
  match r with
  | .generate p => generate engine s today p w
  | .markers name target =>
    match reference name target with
    | .ok ls => ⟨none, [], [], printLines w ls⟩
    | .error e => ⟨some e, [], [], w⟩

def run (engine : Manifest.Engine) (home : Option String) (today : String) (o : Options)
    (w : Output.World) : Outcome :=
  let config := Config.select (.ofTree w.files) home o.config
  match config.value with
  | .error e => ⟨some (.config e), [], config.events, w⟩
  | .ok c =>
    let out := answer engine ⟨o.dryRun, o.inputs, c⟩ today o.request w
    { out with events := config.events ++ out.events }

end TaskSynth.Cli
