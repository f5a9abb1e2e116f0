import TaskSynth.Manifest.Env

namespace TaskSynth

namespace Manifest

structure Step where
  image : String
  command : List String
  env : List EnvBinding
  deriving DecidableEq

end Manifest

structure Manifest where
  name : String
  version : String
  description : Option String
  params : List Schema.Param
  results : List Schema.Result
  workspaces : List Marker.Workspace
  step : Manifest.Step

namespace Manifest

def apiVersion : String := "tekton.dev/v1"

def versionLabel : String := "app.kubernetes.io/version"

/-- What stands before an import path that an image is built from. -/
def imageScheme : String := "ko://"

def fileName (m : Manifest) : String := m.name ++ "-task.yaml"

/-- An entry that is left out when the list is empty. -/
def listEntry (key : String) : List Json.Value → List (String × Json.Value)
  | [] => []
  | items => [(key, .array items)]

def workspaceDocument (w : Marker.Workspace) : Json.Value :=
  .object ([("name", .string w.name), ("description", .string w.description),
    ("readOnly", .bool w.readOnly), ("optional", .bool w.optional)] ++
    Schema.optionalEntry "mountPath" (w.mountPath.map .string))

def Step.document (s : Step) : Json.Value :=
  .object ([("image", .string s.image), ("command", .array (s.command.map .string))] ++
    listEntry "env" (s.env.map EnvBinding.document))

def spec (m : Manifest) : Json.Value :=
  .object (Schema.optionalEntry "description" (m.description.map .string) ++
    [("params", .array (m.params.map Schema.Param.document)),
     ("results", .array (m.results.map Schema.Result.document))] ++
    listEntry "workspaces" (m.workspaces.map workspaceDocument) ++
    [("steps", .array [m.step.document])])

def metadata (m : Manifest) : Json.Value :=
  .object [("name", .string m.name), ("labels", .object [(versionLabel, .string m.version)])]

def document (m : Manifest) : Json.Value :=
  .object [("apiVersion", .string apiVersion), ("kind", .string "Task"),
    ("metadata", m.metadata), ("spec", m.spec)]

/-- The document that lists the files of several manifests. -/
def kustomization (files : List String) : Json.Value :=
  .object [("resources", .array (files.map .string))]

end Manifest

end TaskSynth
