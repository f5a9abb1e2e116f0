import Mathlib.Data.List.Nodup
import TaskSynth.Proofs.FileTree.Path
import TaskSynth.Proofs.Output.Generation

namespace TaskSynth.Output

open FileTree Outcome

/-- Each artifact is written, and each to a path of its own. -/
def Rule.Apart (rule : Rule) (artifacts : List Artifact) : Prop :=
  ∃ paths, List.Forall₂ (fun a path => rule.destination a = .ok (some path)) artifacts paths ∧
    (paths.map components).Nodup

theorem Rule.apart_iff {rule : Rule} {artifacts : List Artifact} {paths : List String}
    (goes : List.Forall₂ (fun a path => rule.destination a = .ok (some path)) artifacts paths) :
    rule.Apart artifacts ↔ (paths.map components).Nodup := by
  constructor
  · rintro ⟨others, goes', distinct⟩
    have places : others.map some = paths.map some :=
      Except.ok.inj ((mapM_eq_ok_iff.mpr (List.forall₂_map_right_iff.mpr goes')).symm.trans
        (mapM_eq_ok_iff.mpr (List.forall₂_map_right_iff.mpr goes)))
    rwa [List.map_injective_iff.mpr (fun _ _ => Option.some.inj) places] at distinct
  · exact fun distinct => ⟨paths, goes, distinct⟩

def manifestFile (name : String) : String := name ++ "-task.yaml"

/-- The path of the manifest of a task under an output root. A name that starts with a slash
leaves the root. -/
def manifestPath (root name : String) : Bool × List String :=
  if IsAbsolute name then (true, stepNames (manifestFile name))
  else ((components root).1, (components root).2 ++ baseDir :: stepNames (manifestFile name))

section Manifests

variable {root name : String}

theorem isAbsolute_manifestFile (name : String) :
    IsAbsolute (manifestFile name) ↔ IsAbsolute name := by
  cases spelt : name.toList <;> simp [IsAbsolute, manifestFile, spelt]

theorem components_base {path : String} (relative : ¬ IsAbsolute path) (root : String) :
    components (join root (join baseDir path)) =
      ((components root).1, (components root).2 ++ baseDir :: stepNames path) := by
  have below : ¬ IsAbsolute (join baseDir path) := by
    rw [isAbsolute_join relative]
    decide
  have names : (Path.ofString (join baseDir path)).names =
      baseDir :: (Path.ofString path).names := by
    have base : splitNames baseDir.toList = [baseDir.toList] :=
      splitNames_of_plain (by decide) (by decide)
    simp [Path.ofString, splitNames_join relative, base]
  have undotted : baseDir ≠ "." := by decide
  rw [components_join below (by simp [names, undotted])]
  simp [stepNames, names, undotted]

theorem components_manifest (root name : String) :
    components (join root (join baseDir (manifestFile name))) = manifestPath root name := by
  unfold manifestPath
  by_cases absolute : IsAbsolute name
  · have whole := (isAbsolute_manifestFile name).mpr absolute
    rw [if_pos absolute, join_of_isAbsolute whole, join_of_isAbsolute whole,
      components_of_isAbsolute whole]
  · rw [if_neg absolute, components_base (fun h => absolute ((isAbsolute_manifestFile name).mp h))]

/-- No task takes the place of the list of all manifests. -/
theorem components_kustomization_ne (root name : String) :
    components (join root (join baseDir kustomizationFile)) ≠ manifestPath root name := by
  obtain ⟨front, start, steps⟩ : ∃ front start,
      stepNames (name ++ "-task.yaml") = front ++ [start ++ "-task.yaml"] :=
    stepNames_append (by decide) (by decide) (by decide) name
  have own : stepNames kustomizationFile = [kustomizationFile] :=
    stepNames_of_plain (by decide) (by decide) (by decide)
  rw [components_base (by decide), own]
  intro same
  -- Wherever the name leads, its last step keeps the end of the file name.
  have path : ∃ outer, (manifestPath root name).2 = outer ++ [start ++ "-task.yaml"] := by
    unfold manifestPath manifestFile
    split
    · exact ⟨front, steps⟩
    · exact ⟨(components root).2 ++ baseDir :: front, by simp [steps]⟩
  obtain ⟨outer, path⟩ := path
  have last : kustomizationFile = start ++ "-task.yaml" := by
    have lasts := congrArg (fun c => c.2.getLast?) same
    simpa [path] using lasts
  have ends : "-task.yaml".toList <:+ kustomizationFile.toList :=
    ⟨start.toList, by rw [last, String.toList_append]⟩
  exact absurd ends (by decide)

theorem stepNames_manifestFile_of_plain (plain : '/' ∉ name.toList) :
    stepNames (manifestFile name) = [manifestFile name] := by
  have long : "-task.yaml".length ≤ (manifestFile name).length := by simp [manifestFile]
  apply stepNames_of_plain (by simpa [manifestFile] using plain)
  · rintro none
    rw [none] at long
    exact absurd long (by decide)
  · rintro dot
    rw [dot] at long
    exact absurd long (by decide)

/-- Without slashes only the name itself tells manifests apart. -/
theorem manifestPath_inj {a b : String} (plain : '/' ∉ a.toList) (plain' : '/' ∉ b.toList) :
    manifestPath root a = manifestPath root b ↔ a = b := by
  have path {x : String} (plain : '/' ∉ x.toList) : manifestPath root x =
      ((components root).1, (components root).2 ++ [baseDir, manifestFile x]) := by
    have relative : ¬ IsAbsolute x := fun h => plain (List.mem_of_mem_head? h)
    rw [manifestPath, if_neg relative, stepNames_manifestFile_of_plain plain]
  rw [path plain, path plain']
  simp [manifestFile, String.append_left_inj]

theorem apart_manifests_iff (root : String) (skip : Bool) (ms : List Manifest) :
    (Rule.directory root).Apart (manifestArtifacts skip ms) ↔
      (ms.map fun m => manifestPath root m.name).Nodup := by
  have goes : List.Forall₂ (fun a path => (Rule.directory root).destination a = .ok (some path))
      (manifestArtifacts skip ms) ((manifestArtifacts skip ms).map fun a => join root a.path) := by
    rw [List.forall₂_map_right_iff, List.forall₂_same]
    exact fun _ _ => rfl
  have own : (ms.map manifestArtifact).map (fun a => components (join root a.path)) =
      ms.map fun m => manifestPath root m.name := by
    rw [List.map_map]
    exact List.map_congr_left fun m _ => components_manifest root m.name
  rw [Rule.apart_iff goes, List.map_map, manifestArtifacts, List.map_append]
  simp only [Function.comp_def, own]
  split
  · simp
  · rw [List.map_singleton, List.nodup_append]
    simp only [List.nodup_singleton, true_and, and_iff_left_iff_imp, List.mem_singleton,
      forall_eq]
    rintro _ x member rfl
    obtain ⟨m, _, path⟩ := List.mem_map.mp member
    exact components_kustomization_ne root m.name path.symm

theorem apart_manifests_of_buildAll {packages : List Package} {c : Manifest.Command}
    {ms : List Manifest} (built : (buildAll c packages).value = .ok ms) (root : String)
    (skip : Bool) :
    (Rule.directory root).Apart (manifestArtifacts skip ms) ↔
      ((taskNames packages).map (manifestPath root)).Nodup := by
  rw [apart_manifests_iff, ← names_of_buildAll built, List.map_map]
  rfl

theorem nodup_manifestPath_iff {names : List String} (plain : ∀ n ∈ names, '/' ∉ n.toList) :
    (names.map (manifestPath root)).Nodup ↔ names.Nodup := by
  constructor
  · exact List.Nodup.of_map _
  · intro distinct
    exact distinct.map_on fun a ha b hb => (manifestPath_inj (plain a ha) (plain b hb)).mp

end Manifests

/-- The file of bindings is the same in each directory. -/
theorem apart_bindings_iff (header : Binding.LicenseHeader) (packages : List Package) :
    Rule.artifacts.Apart (bindAll header packages).value ↔
      ((taskDirs packages).map components).Nodup := by
  have goes : List.Forall₂ (fun a path => Rule.artifacts.destination a = .ok (some path))
      (bindAll header packages).value
      ((taskDirs packages).map fun dir => join dir Binding.bindingsFile) := by
    rw [List.forall₂_map_right_iff]
    exact (bindAll_related header packages).imp fun a dir own => by
      simp only [Rule.destination, own.1, own.2]
  have path (dir : String) : components (join dir Binding.bindingsFile) =
      ((components dir).1, (components dir).2 ++ [Binding.bindingsFile]) := by
    have named : splitNames Binding.bindingsFile.toList = [Binding.bindingsFile.toList] :=
      splitNames_of_plain (by decide) (by decide)
    rw [components_join (by decide) (by simp [Path.ofString, named]; decide),
      stepNames_of_plain (by decide) (by decide) (by decide)]
  have inj : Function.Injective fun c : Bool × List String =>
      (c.1, c.2 ++ [Binding.bindingsFile]) := by
    intro a b same
    simp only [Prod.mk.injEq, List.append_cancel_right_eq] at same
    exact Prod.ext same.1 same.2
  calc Rule.artifacts.Apart (bindAll header packages).value
      ↔ (((taskDirs packages).map components).map fun c =>
          (c.1, c.2 ++ [Binding.bindingsFile])).Nodup := by
        simp only [Rule.apart_iff goes, List.map_map, Function.comp_def, path]
    _ ↔ ((taskDirs packages).map components).Nodup := List.nodup_map_iff inj

end TaskSynth.Output
