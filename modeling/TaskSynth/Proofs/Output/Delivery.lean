import TaskSynth.Proofs.Output.Destination
import TaskSynth.Proofs.Output.Sequence

namespace TaskSynth.Output

open FileTree Outcome

/-- The files of a job. One that does not generate has none. -/
def Job.files (packages : List Package) (j : Job) : List (String × String) :=
  match (j.generator.generate packages).value with
  | .ok artifacts => j.rule.files artifacts
  | .error _ => []

section

variable {packages : List Package} {jobs : List Job} {w : World}

theorem Run.writes_of_writeAll {rs : List Rendered} {s : Summary}
    (done : (writeAll w rs).2.value = .ok s) :
    Writes w.files (rs.flatMap fun r => r.rule.files r.artifacts) (writeAll w rs).1.files ∧
      s.written = (rs.flatMap fun r => r.rule.files r.artifacts).map (·.1) := by
  rw [← filed_deliveries]
  rcases writeAll_cases rs w with ⟨value, delivered⟩ | ⟨e, failed, -⟩
  · obtain rfl := Except.ok.inj (done.symm.trans value)
    exact ⟨delivered.writes, rfl⟩
  · cases done.symm.trans failed

theorem Job.Renders.files {j : Job} {r : Run.Rendered} (renders : j.Renders packages r) :
    j.files packages = r.rule.files r.artifacts := by
  simp only [Job.files, renders.artifacts, renders.rule]

theorem writes_of_run {s : Run.Summary} (done : (run packages jobs w).2.value = .ok s) :
    Writes w.files (jobs.flatMap (Job.files packages)) (run packages jobs w).1.files ∧
      s.written = (jobs.flatMap (Job.files packages)).map (·.1) := by
  cases rendered : (Run.renderAll packages jobs).value with
  | error e =>
    simp only [run, rendered] at done
    cases done
  | ok rs =>
    have files : jobs.flatMap (Job.files packages) =
        rs.flatMap fun r => r.rule.files r.artifacts := by
      simp only [List.flatMap_def]
      rw [map_eq_map_of_related (Run.renderAll_eq_ok_iff.mp rendered)
        fun j r renders => renders.files]
    simp only [run, rendered] at done ⊢
    rw [files]
    exact Run.writes_of_writeAll done

end

end TaskSynth.Output
