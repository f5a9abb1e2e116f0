import TaskSynth.Proofs.Output.Delivery

namespace TaskSynth.Output

open FileTree Outcome

/-- Manifests go to paths of their own where the names of their tasks lead apart, and bindings
where the directories of their packages do. After a run the files hold what was rendered for them
unless two that are different go to one place. -/
theorem artifacts_apart_iff (packages : List Package) :
    (∀ c skip root artifacts,
      ((Generator.manifests c skip).generate packages).value = .ok artifacts →
        ((Rule.directory root).Apart artifacts ↔
          ((taskNames packages).map (manifestPath root)).Nodup) ∧
        ((∀ n ∈ taskNames packages, '/' ∉ n.toList) →
          ((Rule.directory root).Apart artifacts ↔ (taskNames packages).Nodup))) ∧
    (∀ header, ∃ artifacts, ((Generator.bindings header).generate packages).value = .ok artifacts ∧
      (Rule.artifacts.Apart artifacts ↔ ((taskDirs packages).map components).Nodup)) ∧
    (∀ jobs w s, (run packages jobs w).2.value = .ok s →
      ((∀ x ∈ jobs.flatMap (Job.files packages),
          (run packages jobs w).1.files.read x.1 = .ok x.2) ↔
        ∀ x ∈ jobs.flatMap (Job.files packages), ∀ y ∈ jobs.flatMap (Job.files packages),
          place w.files.current x.1 = place w.files.current y.1 → x.2 = y.2)) := by
  refine ⟨?_, ?_, ?_⟩
  · intro c skip root artifacts generated
    obtain ⟨ms, built, rfl⟩ := map_eq_ok_iff.mp generated
    have paths := apart_manifests_of_buildAll built root skip
    exact ⟨paths, fun plain => paths.trans (nodup_manifestPath_iff plain)⟩
  · intro header
    exact ⟨_, rfl, apart_bindings_iff header packages⟩
  · intro jobs w s done
    exact (writes_of_run done).1.read_own_iff

theorem artifacts_apart_two :
    let task (name : String) : Package :=
      ⟨"main", "acme/" ++ name, name, [], some ⟨name, "0.1"⟩, [], []⟩
    let packages := [task "greet", task "part"]
    let c : Manifest.Command := ⟨fun _ _ => .ok "run"⟩
    let jobs : List Job := [⟨.manifests c false, .directory "out"⟩, ⟨.bindings .none, .artifacts⟩]
    let w : World := ⟨.ofEntries ["work"] [(["work"], .directory)], .empty none⟩
    (∃ artifacts, ((Generator.manifests c false).generate packages).value = .ok artifacts ∧
      (Rule.directory "out").Apart artifacts) ∧
    (∃ artifacts, ((Generator.bindings .none).generate packages).value = .ok artifacts ∧
      Rule.artifacts.Apart artifacts) ∧
    (∃ s, (run packages jobs w).2.value = .ok s ∧
      ∀ x ∈ jobs.flatMap (Job.files packages),
        (run packages jobs w).1.files.read x.1 = .ok x.2) := by
  intro task packages c jobs w
  obtain ⟨manifests, bindings, reads⟩ := artifacts_apart_iff packages
  obtain ⟨artifacts, generated⟩ : ∃ artifacts,
      ((Generator.manifests c false).generate packages).value = .ok artifacts :=
    exists_of_isOk (by decide +kernel)
  obtain ⟨s, done⟩ : ∃ s, (run packages jobs w).2.value = .ok s :=
    exists_of_isOk (by decide +kernel)
  obtain ⟨sources, synthesized, apart⟩ := bindings .none
  have places : ((jobs.flatMap (Job.files packages)).map fun x =>
      place w.files.current x.1).Nodup := by
    decide +kernel
  refine ⟨⟨artifacts, generated, ((manifests c false "out" artifacts generated).2 ?_).mpr ?_⟩,
    ⟨sources, synthesized, apart.mpr ?_⟩, ⟨s, done, (reads jobs w s done).mpr ?_⟩⟩
  · decide
  · decide
  · decide
  · intro x hx y hy same
    rw [List.inj_on_of_nodup_map places hx hy same]

/-- Two tasks of one name in one directory: each overwrites what the other has. -/
theorem artifacts_overwritten :
    let task (source : String) : Package :=
      ⟨"main", source, "src", [], some ⟨"greet", "0.1"⟩, [], []⟩
    let packages := [task "acme/first", task "acme/second"]
    let c : Manifest.Command := ⟨fun _ _ => .ok "run"⟩
    let jobs : List Job := [⟨.manifests c false, .directory "out"⟩, ⟨.bindings .none, .artifacts⟩]
    let w : World := ⟨.ofEntries ["work"] [(["work"], .directory)], .empty none⟩
    (∃ artifacts, ((Generator.manifests c false).generate packages).value = .ok artifacts ∧
      ¬ (Rule.directory "out").Apart artifacts) ∧
    (∃ artifacts, ((Generator.bindings .none).generate packages).value = .ok artifacts ∧
      ¬ Rule.artifacts.Apart artifacts) ∧
    (∃ s, (run packages jobs w).2.value = .ok s ∧
      ¬ ∀ x ∈ jobs.flatMap (Job.files packages),
        (run packages jobs w).1.files.read x.1 = .ok x.2) := by
  intro task packages c jobs w
  obtain ⟨ms, built⟩ : ∃ ms, (buildAll c packages).value = .ok ms :=
    exists_of_isOk (by decide +kernel)
  obtain ⟨s, done⟩ : ∃ s, (run packages jobs w).2.value = .ok s :=
    exists_of_isOk (by decide +kernel)
  refine ⟨⟨manifestArtifacts false ms, map_eq_ok_iff.mpr ⟨ms, built, rfl⟩, ?_⟩,
    ⟨_, rfl, ?_⟩, ⟨s, done, ?_⟩⟩
  · rw [apart_manifests_of_buildAll built]
    decide
  · rw [apart_bindings_iff]
    decide
  · rw [(writes_of_run done).1.read_own_iff]
    decide +kernel

end TaskSynth.Output
