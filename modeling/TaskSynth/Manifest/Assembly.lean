import TaskSynth.Log
import TaskSynth.Manifest.Basic
import TaskSynth.Manifest.Command

namespace TaskSynth.Manifest

inductive Error where
  | schema (e : Schema.Error)
  | command (e : CommandError)

def Error.message : Error → String
  | schema e => e.message
  | command e => e.message

structure Parts where
  params : List Schema.Param
  results : List Schema.Result

namespace Parts

def empty : Parts := ⟨[], []⟩

def add (parts : Parts) (e : Entity) : Except Schema.Error Parts :=
  match e.marker with
  | .param p => (Schema.inferParam e p).map fun s => { parts with params := parts.params ++ [s] }
  | .result r => .ok { parts with results := parts.results ++ [Schema.inferResult e r] }

end Parts

def noun : Entity.Kind → String
  | .param => "parameter"
  | .result => "result"

/-- The schemas of entities in their order; of those with one kind and name only the first
counts. The first that has no schema ends the collection. -/
def collect (context : Log.Context) (seen : List (Entity.Kind × String)) (parts : Parts) :
    List Entity → Logged (Except Schema.Error Parts)
  | [] => .of (.ok parts)
  | e :: rest => do
    let own := context.narrow e.kind e.marker.name
    .report [own.info (noun e.kind ++ " found")]
    if e.key ∈ seen then
      .report [own.warn (noun e.kind ++ " duplicated! ensure unique name")]
      collect context seen parts rest
    else
      match parts.add e with
      | .ok parts => collect context (e.key :: seen) parts rest
      | .error err => .of (.error err)

/-- A workspace as the task declares it: an empty mount path is none. -/
def declared (w : Marker.Workspace) : Marker.Workspace :=
  { w with mountPath := w.mountPath.filter (· ≠ "") }

/-- The comments of the files, joined; none if there is no text. -/
def describe (fileDocs : List String) : Option String :=
  some ("\n".intercalate fileDocs) |>.filter (· ≠ "")

/-- Runs the binary of the package; params come before results. -/
def Step.ofParts (p : Package) (command : List String) (parts : Parts) : Step where
  image := imageScheme ++ p.importPath
  command := command
  env := parts.params.map EnvBinding.ofParam ++ parts.results.map EnvBinding.ofResult

def assembled (t : Marker.Task) (parts : Parts) (workspaces : List Marker.Workspace) : String :=
  "task '" ++ t.name ++ "' assembled with " ++ toString parts.params.length ++ " params, " ++
    toString parts.results.length ++ " results and " ++ toString workspaces.length ++
    " workspaces"

def generator : String := "manifest"

def ofTask (context : Log.Context) (p : Package) (t : Marker.Task) (c : Command) :
    Logged (Except Error Manifest) := do
  .report (p.workspaces.map fun w => context.info ("found workspace '" ++ w.name ++ "'"))
  match ← collect context [] .empty p.entities with
  | .error e => return .error (.schema e)
  | .ok parts =>
    match c.arguments p.name p.importPath with
    | .error e => return .error (.command e)
    | .ok command =>
      .report [context.debug (assembled t parts p.workspaces)]
      return .ok ⟨t.name, t.version, describe p.fileDocs, parts.params, parts.results,
        p.workspaces.map declared, .ofParts p command parts⟩

/-- The manifest of a package; one without a task marker has none. -/
def build (p : Package) (c : Command) : Logged (Except Error (Option Manifest)) := do
  let context := Log.Context.ofPackage generator p.name
  .report [context.debug "starting collecting"]
  match p.task with
  | none =>
    .report [context.info "skipping non-task package"]
    return .ok none
  | some t => return (← ofTask context p t c).map some

/-- The command after a package. Only the manifest of a task asks for its text. -/
def Command.after (c : Command) (p : Package) : Command := if p.task.isSome then c.next else c

end TaskSynth.Manifest
