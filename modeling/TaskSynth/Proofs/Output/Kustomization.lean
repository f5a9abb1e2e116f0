import TaskSynth.Proofs.Output.Destination
import TaskSynth.Proofs.Output.Document

namespace TaskSynth.Output

open FileTree Outcome

/-- What is made of some packages: a manifest for each task, a file for each manifest, and a
kustomization of these files, unless it is skipped or empty. -/
structure Kustomizes (c : Manifest.Command) (skip : Bool) (packages : List Package)
    (manifests : List Manifest) (files : List Artifact) (resources : List String)
    (listing : List Artifact) : Prop where
  built : List.Forall₂ (fun x m => (Manifest.build x.1 x.2).value = .ok (some m))
    ((turns c packages).filter (·.1.task.isSome)) manifests
  tasks : manifests.map (·.name) = taskNames packages
  written : List.Forall₂ (fun m a =>
    a.path = join "base" (m.name ++ "-task.yaml") ∧
      a.content = "---\n" ++ Yaml.document m.document ∧
      OpensManifest a.content m.name) manifests files
  named : resources = manifests.map fun m => m.name ++ "-task.yaml"
  joined : List.Forall₂ (fun r a => join "base" r = a.path) resources files
  shown_iff : listing ≠ [] ↔ skip = false ∧ ∃ p ∈ packages, p.task.isSome
  shown : listing ≠ [] → ∃ a, listing = [a] ∧ IsKustomization resources a
  apart : ∀ a ∈ files, components a.path ≠ components "base/kustomization.yaml"
  rooted : ∀ a ∈ files ++ listing, a.packageDir = none

section

variable {c : Manifest.Command} {packages : List Package} {ms : List Manifest}

theorem related_of_buildAll (built : (buildAll c packages).value = .ok ms) :
    List.Forall₂ (fun x m => (Manifest.build x.1 x.2).value = .ok (some m))
      ((turns c packages).filter (·.1.task.isSome)) ms := by
  obtain ⟨found, related, rfl⟩ := buildAll_eq_ok_iff.mp built
  clear built
  generalize turns c packages = xs at related ⊢
  induction related with
  | nil => exact .nil
  | @cons x m _ _ own _ ih =>
    have named := Manifest.name_of_build own
    cases m with
    | none =>
      have idle : x.1.task = none := by simpa using named.symm
      simpa [List.filter_cons, idle] using ih
    | some m =>
      have task : x.1.task.isSome := by
        rw [← Option.isSome_map (f := fun t : Marker.Task => t.name), ← named]
        rfl
      rw [List.filter_cons, if_pos task]
      exact .cons own ih

theorem nonempty_of_buildAll (built : (buildAll c packages).value = .ok ms) :
    ms ≠ [] ↔ ∃ p ∈ packages, p.task.isSome := by
  have named : ms.map (·.name) = [] ↔ taskNames packages = [] := by rw [names_of_buildAll built]
  rw [List.map_eq_nil_iff] at named
  rw [Ne, named]
  simp [taskNames, List.filterMap_eq_nil_iff, Option.isSome_iff_ne_none]

theorem components_manifestFile_ne (name : String) :
    components (join baseDir (manifestFile name)) ≠
      components (join baseDir kustomizationFile) := by
  -- the case of an empty directory, which leaves both paths as they are
  have whole (path : String) : join "" path = path := by simp [join]
  have apart := components_kustomization_ne "" name
  rw [← components_manifest, whole, whole] at apart
  exact apart.symm

theorem kustomizes_of_buildAll (built : (buildAll c packages).value = .ok ms) (skip : Bool) :
    Kustomizes c skip packages ms (ms.map manifestArtifact) (ms.map Manifest.fileName)
      (if skip || ms.isEmpty then [] else [kustomizationArtifact ms]) where
  built := related_of_buildAll built
  tasks := names_of_buildAll built
  written := by
    rw [List.forall₂_map_right_iff, List.forall₂_same]
    exact fun m _ => ⟨rfl, rfl, opensManifest_yamlFile m⟩
  named := rfl
  joined := by
    rw [List.forall₂_map_left_iff, List.forall₂_map_right_iff, List.forall₂_same]
    exact fun m _ => rfl
  shown_iff := by
    rw [← nonempty_of_buildAll built]
    cases skip <;> simp
  shown := by
    intro some
    split at some
    · contradiction
    · rename_i present
      have tasks : ms ≠ [] := by
        rintro rfl
        simp at present
      exact ⟨_, if_neg present, isKustomization_artifact tasks⟩
  apart := by
    intro a member
    obtain ⟨m, _, rfl⟩ := List.mem_map.mp member
    exact components_manifestFile_ne m.name
  rooted := by
    intro a member
    rcases List.mem_append.mp member with own | list
    · obtain ⟨m, _, rfl⟩ := List.mem_map.mp own
      rfl
    · split at list
      · cases list
      · obtain rfl := List.mem_singleton.mp list
        rfl

/-- Whenever manifests are generated, there is one file for each task, and then the kustomization of
these files, if it is not skipped and there is any. No name of a task leads to the kustomization. -/
theorem kustomization_lists_manifests :
    (∀ c skip packages artifacts,
      ((Generator.manifests c skip).generate packages).value = .ok artifacts →
      ∃ manifests files resources listing, artifacts = files ++ listing ∧
        Kustomizes c skip packages manifests files resources listing) ∧
    ∀ name : String,
      components (join "base" (name ++ "-task.yaml")) ≠ components "base/kustomization.yaml" := by
  refine ⟨?_, components_manifestFile_ne⟩
  intro c skip packages artifacts generated
  obtain ⟨ms, built, rfl⟩ := map_eq_ok_iff.mp generated
  exact ⟨ms, _, _, _, rfl, kustomizes_of_buildAll built skip⟩

end

/-- A task between two packages that are none, and one whose name leaves the directory. -/
theorem kustomization_lists_manifests_outside :
    let idle : Package := ⟨"lib", "acme/lib", "lib", [], none, [], []⟩
    let task (name : String) : Package :=
      ⟨"main", "acme/main", "src", [], some ⟨name, "0.1"⟩, [], []⟩
    let packages := [idle, task "greet", idle, task "/kustomization.yaml/.."]
    let c : Manifest.Command := ⟨fun _ _ => .ok "run"⟩
    ∃ artifacts manifests files resources listing,
      ((Generator.manifests c false).generate packages).value = .ok artifacts ∧
      artifacts = files ++ listing ∧
      Kustomizes c false packages manifests files resources listing ∧
      artifacts.map (·.path) = ["base/greet-task.yaml", "/kustomization.yaml/..-task.yaml",
        "base/kustomization.yaml"] := by
  intro idle task packages c
  obtain ⟨ms, built⟩ : ∃ ms, (buildAll c packages).value = .ok ms :=
    exists_of_isOk (by decide +kernel)
  have names : ms.map (·.name) = ["greet", "/kustomization.yaml/.."] := names_of_buildAll built
  have present : ms ≠ [] := by
    rintro rfl
    contradiction
  have paths : (manifestArtifacts false ms).map (·.path) =
      (ms.map (·.name)).map (fun name => join baseDir (manifestFile name)) ++
        [join baseDir kustomizationFile] := by
    simp [manifestArtifacts, present, manifestArtifact, kustomizationArtifact, Artifact.rooted,
      manifestFile, Manifest.fileName]
  have generated : ((Generator.manifests c false).generate packages).value =
      .ok (manifestArtifacts false ms) := map_eq_ok_iff.mpr ⟨ms, built, rfl⟩
  obtain ⟨manifests, files, resources, listing, whole, lists⟩ :=
    kustomization_lists_manifests.1 c false packages _ generated
  refine ⟨_, manifests, files, resources, listing, generated, whole, lists, ?_⟩
  rw [paths, names]
  rfl

end TaskSynth.Output
