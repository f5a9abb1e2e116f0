import TaskSynth.Proofs.Output.Delivery
import TaskSynth.Proofs.Output.Step
import TaskSynth.Proofs.Output.Writing

namespace TaskSynth.Output

open Outcome

/-- The same job, with standard output in the place of files. -/
def Job.printing (j : Job) : Job := { j with rule := .stdout }

def Run.Rendered.printing (r : Rendered) : Rendered := { r with rule := .stdout }

/-- The world after a text has been printed in full. -/
def World.show (w : World) (s : String) : World :=
  { w with console := { w.console with printed := w.console.printed ++ s } }

section

variable {packages : List Package} {jobs : List Job} {w : World}

@[simp]
theorem World.show_empty (w : World) : w.show "" = w := by
  simp [World.show]

theorem World.show_append (w : World) (s t : String) : (w.show s).show t = w.show (s ++ t) := by
  simp [World.show, String.append_assoc]

theorem Rule.deliver_stdout (unlimited : w.console.room = none) (a : Artifact) :
    Rule.stdout.deliver a w = (w.show a.content, .ok none) := by
  simp [deliver, destination, Console.print, unlimited, World.show]

theorem Rule.write_stdout (unlimited : w.console.room = none) (artifacts : List Artifact) :
    (Rule.stdout.write w artifacts).1 = w.show (String.join (artifacts.map (·.content))) ∧
      (Rule.stdout.write w artifacts).2.value = .ok [] := by
  induction artifacts generalizing w with
  | nil => exact ⟨w.show_empty.symm, rfl⟩
  | cons a rest ih =>
    obtain ⟨world, value⟩ := write_cons_of_ok (deliver_stdout unlimited a) rest
    obtain ⟨shown, done⟩ := ih (w := w.show a.content) unlimited
    rw [world, shown, value, done, World.show_append, List.map_cons, String.join_cons]
    exact ⟨rfl, rfl⟩

theorem Rule.files_deliver_stdout (a : Artifact) (w : World) :
    (Rule.stdout.deliver a w).1.files = w.files := by
  simp only [deliver, destination]
  split <;> rfl

theorem Rule.console_deliver_of_filed {rule : Rule} (filed : rule ≠ .stdout) (a : Artifact)
    (w : World) : (rule.deliver a w).1.console = w.console := by
  unfold deliver
  split
  · rfl
  · rename_i printed
    exact absurd (eq_stdout_of_destination printed) filed
  · split <;> rfl

namespace Run

theorem writeAll_printing (unlimited : w.console.room = none) (rs : List Rendered) :
    (writeAll w (rs.map Rendered.printing)).1 =
        w.show (String.join ((rs.flatMap (·.artifacts)).map (·.content))) ∧
      ∃ s, (writeAll w (rs.map Rendered.printing)).2.value = .ok s := by
  induction rs generalizing w with
  | nil => exact ⟨w.show_empty.symm, _, rfl⟩
  | cons r rest ih =>
    obtain ⟨shown, done⟩ := Rule.write_stdout unlimited r.artifacts
    have own : (r.printing.rule.write w r.printing.artifacts).1 =
        w.show (String.join (r.artifacts.map (·.content))) := shown
    obtain ⟨world, value⟩ := writeAll_cons_of_ok (r := r.printing) done (rest.map Rendered.printing)
    obtain ⟨later, s, others⟩ :=
      ih (w := w.show (String.join (r.artifacts.map (·.content)))) unlimited
    rw [List.map_cons, world, value, own, later, others, World.show_append, ← String.join_append,
      ← List.map_append, List.flatMap_cons]
    exact ⟨rfl, _, rfl⟩

theorem renderAll_printing {rs : List Rendered}
    (rendered : (renderAll packages jobs).value = .ok rs) :
    (renderAll packages (jobs.map Job.printing)).value = .ok (rs.map Rendered.printing) := by
  rw [renderAll_eq_ok_iff] at rendered ⊢
  rw [List.forall₂_map_left_iff, List.forall₂_map_right_iff]
  exact rendered.imp fun j r renders =>
    ⟨renders.name, rfl, renders.artifacts, fun _ _ => ⟨none, rfl⟩⟩

end Run

theorem Rule.contents_files {rule : Rule} {artifacts : List Artifact} (filed : rule ≠ .stdout)
    (placed : rule.Places artifacts) :
    (rule.files artifacts).map (·.2) = artifacts.map (·.content) := by
  induction artifacts with
  | nil => rfl
  | cons a rest ih =>
    obtain ⟨⟨place, goes⟩, others⟩ := List.forall_mem_cons.mp placed
    rw [files_cons, List.map_append, ih others, List.map_cons]
    cases place with
    | some path => simp [files, goes]
    | none => exact absurd (eq_stdout_of_destination goes) filed

theorem contents_of_jobs {rs : List Run.Rendered}
    (related : List.Forall₂ (Job.Renders packages) jobs rs) (filed : ∀ j ∈ jobs, j.rule ≠ .stdout) :
    (jobs.flatMap (Job.files packages)).map (·.2) =
      (rs.flatMap (·.artifacts)).map (·.content) := by
  induction related with
  | nil => rfl
  | @cons j r js rs renders _ ih =>
    obtain ⟨first, others⟩ := List.forall_mem_cons.mp filed
    have own : (j.files packages).map (·.2) = r.artifacts.map (·.content) := by
      rw [renders.files]
      exact Rule.contents_files (renders.rule ▸ first) renders.places
    rw [List.flatMap_cons, List.map_append, own, ih others, List.flatMap_cons, List.map_append]

theorem rendered_of_run {s : Run.Summary} (done : (run packages jobs w).2.value = .ok s) :
    ∃ rs, (Run.renderAll packages jobs).value = .ok rs := by
  cases rendered : (Run.renderAll packages jobs).value with
  | error e =>
    rw [(run_of_render_error rendered w).1] at done
    cases done
  | ok rs => exact ⟨rs, rfl⟩

theorem files_run_of_stdout (printing : ∀ j ∈ jobs, j.rule = .stdout) (w : World) :
    (run packages jobs w).1.files = w.files := by
  apply view_run
  intro j planned a w
  rw [printing j planned]
  exact Rule.files_deliver_stdout a w

theorem console_run_of_filed (filed : ∀ j ∈ jobs, j.rule ≠ .stdout) (w : World) :
    (run packages jobs w).1.console = w.console := by
  apply view_run
  intro j planned a w
  exact Rule.console_deliver_of_filed (filed j planned) a w

/-- Jobs that write files print the contents of these files instead, one after another. -/
theorem run_printing {v : World} {s : Run.Summary} (done : (run packages jobs w).2.value = .ok s)
    (filed : ∀ j ∈ jobs, j.rule ≠ .stdout) (unlimited : v.console.room = none) :
    (run packages (jobs.map Job.printing) v).1 =
        v.show (String.join ((jobs.flatMap (Job.files packages)).map (·.2))) ∧
      ∃ t, (run packages (jobs.map Job.printing) v).2.value = .ok t := by
  obtain ⟨rs, rendered⟩ := rendered_of_run done
  rw [contents_of_jobs (Run.renderAll_eq_ok_iff.mp rendered) filed]
  simp only [run, Run.renderAll_printing rendered]
  exact Run.writeAll_printing unlimited rs

end

end TaskSynth.Output
