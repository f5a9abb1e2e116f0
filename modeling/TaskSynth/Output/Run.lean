import TaskSynth.Output.Generator

/-! A run: everything is rendered, and has a place to go, before anything is written. -/
namespace TaskSynth.Output

structure Job where
  generator : Generator
  rule : Rule

namespace Run

inductive Error where
  | manifest (e : Manifest.Error)
  | output (e : Output.Error)

def Error.message : Error → String
  | manifest e => e.message
  | output e => e.message

structure Rendered where
  name : String
  rule : Rule
  artifacts : List Artifact

/-- The first artifact that has no place to go. -/
def check (rule : Rule) (artifacts : List Artifact) : Except Output.Error Unit :=
  artifacts.forM fun a => (rule.destination a).map fun _ => ()

def render (packages : List Package) (j : Job) : Logged (Except Error Rendered) := do
  .report [.rendering j.generator.name]
  match ← j.generator.generate packages with
  | .error e => return .error (.manifest e)
  | .ok artifacts =>
    match check j.rule artifacts with
    | .error e => return .error (.output e)
    | .ok () => return .ok ⟨j.generator.name, j.rule, artifacts⟩

/-- Renders the jobs in their order up to the first failure. -/
def renderAll (packages : List Package) : List Job → Logged (Except Error (List Rendered))
  | [] => .of (.ok [])
  | j :: rest => do
    match ← render packages j with
    | .error e => return .error e
    | .ok r =>
      let rs ← renderAll packages rest
      return rs.map (r :: ·)

structure Summary where
  written : List String
  printed : Nat
  deriving DecidableEq

def Rendered.printed (r : Rendered) : Nat :=
  match r.rule with
  | .stdout => r.artifacts.length
  | _ => 0

/-- Writes what was rendered, in order, up to the first failure. -/
def writeAll (w : World) : List Rendered → World × Logged (Except Error Summary)
  | [] => (w, .of (.ok ⟨[], 0⟩))
  | r :: rest =>
    let start := Log.Event.writing r.name r.artifacts.length
    let (w, own) := r.rule.write w r.artifacts
    match own.value with
    | .error e => (w, ⟨start :: own.events, .error (.output e)⟩)
    | .ok paths =>
      let (w, more) := writeAll w rest
      (w, ⟨start :: own.events ++ more.events,
        more.value.map fun s => ⟨paths ++ s.written, r.printed + s.printed⟩⟩)

end Run

def run (packages : List Package) (jobs : List Job) (w : World) :
    World × Logged (Except Run.Error Run.Summary) :=
  let rendered := Run.renderAll packages jobs
  match rendered.value with
  | .error e => (w, ⟨rendered.events, .error e⟩)
  | .ok rs =>
    let (w, r) := Run.writeAll w rs
    (w, ⟨rendered.events ++ r.events, r.value⟩)

end TaskSynth.Output
