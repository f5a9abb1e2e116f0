import Mathlib.Data.List.Forall2
import TaskSynth.Output.Generator
import TaskSynth.Proofs.Yaml.Scalar

namespace TaskSynth.Output

open Yaml

/-- An item for each file, in their order, that is read as the name of the file. -/
def ListsResources (text : String) (files : List String) : Prop :=
  ∃ items, text.toList = "---\nresources:\n".toList ++ items.flatten ∧
    List.Forall₂ (fun item file =>
      ∃ lines, item = '-' :: ' ' :: lines ∧ readScalar 2 lines = some file.toList) items files

/-- The kind of the document comes first, and then the name of the task. -/
def OpensManifest (text name : String) : Prop :=
  ∃ lines rest,
    text.toList = "---\napiVersion: tekton.dev/v1\nkind: Task\nmetadata:\n  name: ".toList ++
      lines ++ "  labels:\n".toList ++ rest ∧
    readScalar 4 lines = some name.toList

/-- The list of some files, as a document and as a text. -/
structure IsKustomization (files : List String) (a : Artifact) : Prop where
  rooted : a.packageDir = none
  path : a.path = "base/kustomization.yaml"
  document : a.content =
    "---\n" ++ Yaml.document (.object [("resources", .array (files.map .string))])
  text : ListsResources a.content files

/-- Files have one kustomization; there is none without files. -/
inductive Lists : List String → List Artifact → Prop where
  | none : Lists [] []
  | some {files : List String} {a : Artifact} (present : files ≠ [])
      (list : IsKustomization files a) : Lists files [a]

section

variable {files : List String}

theorem itemLines_strings (width : Nat) (lead : List Char) (first : String) (rest : List String) :
    itemLines width lead ((first :: rest).map .string) =
      lead ++ '-' :: ' ' :: scalarLines (width + 2) first.toList ++
        rest.flatMap fun s => margin width ++ '-' :: ' ' :: scalarLines (width + 2) s.toList := by
  induction rest generalizing first lead with
  | nil => simp [itemLines_cons, itemLines_nil, valueLines_string]
  | cons second rest ih =>
    rw [List.map_cons, itemLines_cons, ih (margin width) second, List.flatMap_cons,
      valueLines_string]
    simp [List.append_assoc]

theorem toList_document_resources (present : files ≠ []) :
    (document (Manifest.kustomization files)).toList =
      "resources:\n".toList ++
        files.flatMap fun f => '-' :: ' ' :: scalarLines 2 f.toList := by
  obtain ⟨first, rest, rfl⟩ := List.exists_cons_of_ne_nil present
  have items := itemLines_strings 0 [] first rest
  rw [List.map_cons] at items
  rw [Manifest.kustomization, document, String.toList_ofList,
    entryLines_cons (by decide +kernel) (by decide +kernel), List.map_cons, valueLines_array,
    margin, List.replicate_zero, items, entryLines_nil]
  simp [margin]

theorem listsResources_yamlFile (present : files ≠ []) :
    ListsResources (yamlFile (Manifest.kustomization files)) files := by
  refine ⟨files.map fun f => '-' :: ' ' :: scalarLines 2 f.toList, ?_, ?_⟩
  · rw [yamlFile, String.toList_append, toList_document_resources present, List.flatMap_def]
    rfl
  · rw [List.forall₂_map_left_iff, List.forall₂_same]
    exact fun f _ => ⟨_, rfl, readScalar_scalarLines 2 f.toList⟩

theorem opensManifest_yamlFile (m : Manifest) : OpensManifest (yamlFile m.document) m.name := by
  refine ⟨scalarLines 4 m.name.toList,
    entryLines 4 (margin 4) [(Manifest.versionLabel, .string m.version)] ++
      entryLines 0 [] [("spec", m.spec)], ?_, readScalar_scalarLines 4 m.name.toList⟩
  have version : scalarLines 2 Manifest.apiVersion.toList = "tekton.dev/v1\n".toList := by
    decide +kernel
  have kind : scalarLines 2 "Task".toList = "Task\n".toList := by decide +kernel
  have metadata : valueLines 0 false m.metadata =
      "\n  name: ".toList ++ scalarLines 4 m.name.toList ++ "  labels:\n".toList ++
        entryLines 4 (margin 4) [(Manifest.versionLabel, .string m.version)] := by
    rw [Manifest.metadata, valueLines_object,
      entryLines_cons (by decide +kernel) (by decide +kernel),
      entryLines_cons (by decide +kernel) (by decide +kernel), valueLines_string,
      valueLines_object, entryLines_nil]
    simp [margin]
  rw [yamlFile, String.toList_append, Manifest.document, document, String.toList_ofList,
    entryLines_cons (by decide +kernel) (by decide +kernel),
    entryLines_cons (by decide +kernel) (by decide +kernel),
    entryLines_cons (by decide +kernel) (by decide +kernel), valueLines_string, valueLines_string,
    version, kind, metadata]
  simp [margin]

theorem isKustomization_artifact {ms : List Manifest} (present : ms ≠ []) :
    IsKustomization (ms.map Manifest.fileName) (kustomizationArtifact ms) where
  rooted := rfl
  path := rfl
  document := rfl
  text := listsResources_yamlFile (mt List.map_eq_nil_iff.mp present)

theorem lists_of_manifests (ms : List Manifest) :
    Lists (ms.map Manifest.fileName) (if ms.isEmpty then [] else [kustomizationArtifact ms]) := by
  cases ms with
  | nil => exact .none
  | cons m rest =>
    exact .some (List.cons_ne_nil _ _) (isKustomization_artifact (List.cons_ne_nil m rest))

end

end TaskSynth.Output
