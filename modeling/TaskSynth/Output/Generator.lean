import TaskSynth.Binding.Support
import TaskSynth.Binding.Synthesis
import TaskSynth.Manifest.Assembly
import TaskSynth.Output.Basic
import TaskSynth.Yaml.Printer

namespace TaskSynth.Output

inductive Generator where
  | manifests (command : Manifest.Command) (skipKustomization : Bool)
  | bindings (header : Binding.LicenseHeader)
  | support (packageName : String) (header : Binding.LicenseHeader)

/-- The directory of all manifests, under the output root. -/
def baseDir : String := "base"

def kustomizationFile : String := "kustomization.yaml"

/-- A YAML file opens with the mark of a document. -/
def yamlFile (v : Json.Value) : String := "---\n" ++ Yaml.document v

def manifestArtifact (m : Manifest) : Artifact :=
  .rooted (FileTree.join baseDir m.fileName) (yamlFile m.document)

def kustomizationArtifact (manifests : List Manifest) : Artifact :=
  .rooted (FileTree.join baseDir kustomizationFile)
    (yamlFile (Manifest.kustomization (manifests.map Manifest.fileName)))

/-- The manifests of the packages that are tasks, in their order. The first package that has
none though it is a task ends the work. -/
def buildAll : Manifest.Command → List Package →
    Logged (Except Manifest.Error (List Manifest))
  | _, [] => .of (.ok [])
  | c, p :: rest => do
    match ← Manifest.build p c with
    | .error e => return .error e
    | .ok m =>
      let ms ← buildAll (c.after p) rest
      return ms.map (m.toList ++ ·)

/-- One artifact for each manifest, and a list of them unless it is skipped or empty. -/
def manifestArtifacts (skipKustomization : Bool) (manifests : List Manifest) : List Artifact :=
  manifests.map manifestArtifact ++
    if skipKustomization || manifests.isEmpty then [] else [kustomizationArtifact manifests]

def bindingsArtifact (p : Package) (source : String) : Artifact :=
  ⟨some p.dir, Binding.bindingsFile, source⟩

def bindAll (header : Binding.LicenseHeader) : List Package → Logged (List Artifact)
  | [] => .of []
  | p :: rest => do
    let source ← Binding.synthesize p header
    let artifacts ← bindAll header rest
    return (source.map (bindingsArtifact p)).toList ++ artifacts

def supportArtifacts (packageName : String) (header : Binding.LicenseHeader) :
    Logged (List Artifact) :=
  (Binding.supportFiles packageName header).map fun files =>
    files.map fun f => .rooted f.fileName f.content

namespace Generator

def name : Generator → String
  | manifests .. => Manifest.generator
  | bindings _ => Binding.generator
  | support .. => Binding.supportGenerator

def generate (packages : List Package) :
    Generator → Logged (Except Manifest.Error (List Artifact))
  | manifests c skip => (buildAll c packages).map fun r => r.map (manifestArtifacts skip)
  | bindings header => (bindAll header packages).map .ok
  | support name header => (supportArtifacts name header).map .ok

end Generator

end TaskSynth.Output
