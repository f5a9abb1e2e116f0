import TaskSynth.Proofs.FileTree.Resolution
import TaskSynth.Proofs.Output.Destination

/-! Where manifests may go. The name of a task becomes a part of a path as it is, so a name that
starts with a slash, or leads up from the directory of all manifests by more than one level,
takes its manifest out of the output root. -/
namespace TaskSynth.Output

open FileTree Outcome

/-- A task name that keeps its manifest inside every output root: it is no path from the root of
the file system, and its steps leave the directory of all manifests by at most one level. -/
def StaysInside (name : String) : Prop :=
  ¬ IsAbsolute name ∧ Confined 1 (stepNames (manifestFile name))

instance (name : String) : Decidable (StaysInside name) :=
  inferInstanceAs (Decidable (_ ∧ _))

section

variable {name path : String}

theorem stepNames_base (relative : ¬ IsAbsolute path) :
    stepNames (join baseDir path) = baseDir :: stepNames path := by
  have base : (Path.ofString baseDir).names = [baseDir] := by decide
  have undotted : baseDir ≠ "." := by decide
  simp [stepNames, names_join relative, base, undotted]

theorem last_stepNames_manifestFile (name : String) :
    ∃ front last, stepNames (manifestFile name) = front ++ [last] ∧ last ≠ ".." := by
  obtain ⟨front, start, steps⟩ : ∃ front start,
      stepNames (name ++ "-task.yaml") = front ++ [start ++ "-task.yaml"] :=
    stepNames_append (by decide) (by decide) (by decide) name
  refine ⟨front, start ++ "-task.yaml", steps, ?_⟩
  -- The name of a file is longer than two dots, whatever stands in front of its suffix.
  intro up
  have length := congrArg String.length up
  rw [String.length_append] at length
  have short : "..".length < "-task.yaml".length := by decide
  omega

theorem last_stepNames_base (relative : ¬ IsAbsolute path)
    (named : ∃ front last, stepNames path = front ++ [last] ∧ last ≠ "..") :
    ∃ front last, stepNames (join baseDir path) = front ++ [last] ∧ last ≠ ".." := by
  obtain ⟨front, last, steps, down⟩ := named
  exact ⟨baseDir :: front, last, by rw [stepNames_base relative, steps, List.cons_append], down⟩

theorem confined_base (relative : ¬ IsAbsolute path) :
    Confined 0 (stepNames (join baseDir path)) ↔ Confined 1 (stepNames path) := by
  rw [stepNames_base relative, confined_cons_name (by decide)]

theorem forall_below_manifest_iff (name : String) :
    (∀ root, Below root (join root (join baseDir (manifestFile name)))) ↔ StaysInside name := by
  by_cases absolute : IsAbsolute name
  · have whole := (isAbsolute_manifestFile name).mpr absolute
    rw [join_of_isAbsolute whole, forall_below_join_iff (last_stepNames_manifestFile name)]
    exact ⟨fun inside => absurd whole inside.1, fun inside => absurd absolute inside.1⟩
  · have relative : ¬ IsAbsolute (manifestFile name) := mt (isAbsolute_manifestFile name).mp absolute
    have below : ¬ IsAbsolute (join baseDir (manifestFile name)) := by
      rw [isAbsolute_join relative]
      decide
    rw [forall_below_join_iff (last_stepNames_base relative (last_stepNames_manifestFile name)),
      confined_base relative]
    exact ⟨fun inside => ⟨absolute, inside.2⟩, fun inside => ⟨below, inside.2⟩⟩

theorem below_kustomization (root : String) :
    Below root (join root (join baseDir kustomizationFile)) := by
  have named : ∃ front last, stepNames kustomizationFile = front ++ [last] ∧ last ≠ ".." :=
    ⟨[], kustomizationFile, by decide, by decide⟩
  exact below_join_of_confined (by decide) (by decide) (last_stepNames_base (by decide) named) root

theorem staysInside_of_plain (plain : '/' ∉ name.toList) : StaysInside name := by
  refine ⟨fun absolute => plain (List.mem_of_mem_head? absolute), ?_⟩
  rw [stepNames_manifestFile_of_plain plain]
  exact confined_of_length_le le_rfl

/-- The list of all manifests lies below every root, and so does each manifest exactly when the
name of its task stays inside. A name without slashes does. -/
theorem manifests_below_iff (packages : List Package) :
    (∀ c skip artifacts, ((Generator.manifests c skip).generate packages).value = .ok artifacts →
      ((∀ root, ∀ a ∈ artifacts, ∃ path,
          (Rule.directory root).destination a = .ok (some path) ∧ Below root path) ↔
        ∀ n ∈ taskNames packages, StaysInside n)) ∧
    (∀ n : String, '/' ∉ n.toList → StaysInside n) := by
  refine ⟨?_, fun _ => staysInside_of_plain⟩
  intro c skip artifacts generated
  obtain ⟨ms, built, rfl⟩ := map_eq_ok_iff.mp generated
  rw [← names_of_buildAll built, List.forall_mem_map]
  have goes (root : String) (a : Artifact) : (∃ path,
      (Rule.directory root).destination a = .ok (some path) ∧ Below root path) ↔
      Below root (join root a.path) := by
    simp [Rule.destination]
  simp only [goes]
  constructor
  · intro below m member
    refine (forall_below_manifest_iff m.name).mp fun root => ?_
    exact below root (manifestArtifact m) (List.mem_append_left _ (List.mem_map_of_mem member))
  · intro inside root a member
    rcases List.mem_append.mp member with own | list
    · obtain ⟨m, built, rfl⟩ := List.mem_map.mp own
      exact (forall_below_manifest_iff m.name).mpr (inside m built) root
    · split at list
      · cases list
      · obtain rfl := List.mem_singleton.mp list
        exact below_kustomization root

end

/-- A name that leads up to the output root itself, and no further. -/
theorem manifests_below_parent :
    let packages : List Package :=
      [⟨"main", "acme/greet", "src", [], some ⟨"../greet", "0.1"⟩, [], []⟩]
    let c : Manifest.Command := ⟨fun _ _ => .ok "run"⟩
    ∃ artifacts, ((Generator.manifests c false).generate packages).value = .ok artifacts ∧
      ∀ root, ∀ a ∈ artifacts, ∃ path,
        (Rule.directory root).destination a = .ok (some path) ∧ Below root path := by
  intro packages c
  obtain ⟨artifacts, generated⟩ : ∃ artifacts,
      ((Generator.manifests c false).generate packages).value = .ok artifacts :=
    exists_of_isOk (by decide +kernel)
  exact ⟨artifacts, generated,
    ((manifests_below_iff packages).1 c false artifacts generated).mpr (by decide)⟩

/-- A name that leads up by two levels takes its manifest out of the output root, and so does one
that starts with a slash. -/
theorem manifests_escape :
    let packages : List Package :=
      [⟨"main", "acme/greet", "src", [], some ⟨"../../greet", "0.1"⟩, [], []⟩,
       ⟨"main", "acme/part", "src", [], some ⟨"/part", "0.1"⟩, [], []⟩]
    let c : Manifest.Command := ⟨fun _ _ => .ok "run"⟩
    ∃ artifacts, ((Generator.manifests c true).generate packages).value = .ok artifacts ∧
      artifacts.map (Rule.directory "out").destination =
        [.ok (some "out/base/../../greet-task.yaml"), .ok (some "/part-task.yaml")] ∧
      ¬ Below "out" "out/base/../../greet-task.yaml" ∧ ¬ Below "out" "/part-task.yaml" := by
  intro packages c
  obtain ⟨ms, built⟩ : ∃ ms, (buildAll c packages).value = .ok ms :=
    exists_of_isOk (by decide +kernel)
  have root : resolved "out" = (false, ["out"]) := by decide
  refine ⟨manifestArtifacts true ms, map_eq_ok_iff.mpr ⟨ms, built, rfl⟩, ?_, ?_, ?_⟩
  · have paths : (manifestArtifacts true ms).map (Rule.directory "out").destination =
        (ms.map (·.name)).map fun name =>
          .ok (some (join "out" (join baseDir (manifestFile name)))) := by
      simp [manifestArtifacts, manifestArtifact, Artifact.rooted, Rule.destination, manifestFile,
        Manifest.fileName]
    rw [paths, names_of_buildAll built]
    rfl
  · rintro ⟨more, -, -, whole⟩
    have path : resolved "out/base/../../greet-task.yaml" = (false, ["greet-task.yaml"]) := by
      decide
    simp [root, path] at whole
  · rintro ⟨more, -, -, whole⟩
    have path : resolved "/part-task.yaml" = (true, ["part-task.yaml"]) := by decide
    simp [root, path] at whole

end TaskSynth.Output
