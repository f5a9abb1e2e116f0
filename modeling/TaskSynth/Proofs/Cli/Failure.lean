import TaskSynth.Cli.Command
import TaskSynth.Proofs.Output.Writing

namespace TaskSynth.Cli

open Output

def Failure.IsWrite : Failure → Prop
  | run e => e.IsWrite
  | _ => False

theorem runJobs_world_of_failure {s : Setting} {ps : List Package} {js : List Job} {w : World}
    {e : Failure} (failed : (runJobs s ps js w).failure = some e) (other : ¬ e.IsWrite) :
    (runJobs s ps js w).world = w := by
  unfold runJobs at failed ⊢
  cases outcome : (Output.run ps js w).2.value with
  | error cause =>
    simp only [outcome] at failed ⊢
    cases failed
    exact run_world_of_error outcome other
  | ok summary =>
    simp only [outcome] at failed
    cases failed

theorem generate_world_of_failure {engine : Manifest.Engine} {s : Setting} {today : String}
    {product : Product} {w : World} {e : Failure}
    (failed : (generate engine s today product w).failure = some e)
    (other : ¬ e.IsWrite) : (generate engine s today product w).world = w := by
  unfold generate at failed ⊢
  cases work : (plan engine (.ofTree w.files) s today product).work with
  | error cause => simp only [work]
  | ok work =>
    simp only [work] at failed ⊢
    exact runJobs_world_of_failure failed other

/-- A run with a job that fails has the error of the first such job, and a command that fails
but in a write has written nothing. -/
theorem failure_leaves_world :
    (∀ packages jobs w, (∃ j ∈ jobs, ∃ e, Job.Fails packages j e) →
      ∃ front j back e, jobs = front ++ j :: back ∧
        (∀ b ∈ front, ∀ e, ¬ Job.Fails packages b e) ∧ j.Fails packages e ∧
        (Output.run packages jobs w).2.value = .error e ∧
        (Output.run packages jobs w).1 = w) ∧
    (∀ engine s today product w e,
      (generate engine s today product w).failure = some e → ¬ e.IsWrite →
        (generate engine s today product w).world = w) := by
  constructor
  · rintro packages jobs w ⟨j, member, e, fails⟩
    cases rendered : (Run.renderAll packages jobs).value with
    | error cause =>
      obtain ⟨front, j, back, whole, fine, fails⟩ := Run.renderAll_eq_error_iff.mp rendered
      have first : ∀ b ∈ front, ∀ e, ¬ Job.Fails packages b e := by
        intro b before
        obtain ⟨r, renders⟩ := fine b before
        exact renders.not_fails
      exact ⟨front, j, back, cause, whole, first, fails, run_of_render_error rendered w⟩
    | ok rs =>
      have related := Run.renderAll_eq_ok_iff.mp rendered
      obtain ⟨r, _, renders⟩ := Outcome.exists_of_mem_left related member
      exact absurd fails (renders.not_fails e)
  · intro engine s today product w e failed other
    exact generate_world_of_failure failed other

/-- The last of three jobs fails by the default of a param; a command fails by a snapshot that is
not there. -/
theorem failure_leaves_world_late :
    let count : Entity := ⟨"Counts", "", .array, .param ⟨"counts", some "none", false⟩⟩
    let p : Package := ⟨"main", "acme/main", "src", [], some ⟨"count", "0.1"⟩, [], [count]⟩
    let c : Manifest.Command := ⟨fun _ _ => .ok "run"⟩
    let jobs : List Job := [⟨.bindings .none, .artifacts⟩,
      ⟨.support "tekton" .none, .directory "internal"⟩, ⟨.manifests c false, .directory "out"⟩]
    let engine : Manifest.Engine := ⟨fun _ => .ok c⟩
    let s : Setting := ⟨false, ["counts.yaml"], .empty⟩
    let w : World := ⟨.ofEntries ["work"] [(["work"], .directory)], .empty none⟩
    ((∃ j ∈ jobs, ∃ e, j.Fails [p] e) ∧ (∃ e, (Output.run [p] jobs w).2.value = .error e) ∧
      (Output.run [p] jobs w).1 = w) ∧
    ((generate engine s "2024" (.bindings none none none none) w).failure =
        some (.snapshot (.unread "counts.yaml" .notFound)) ∧
      (generate engine s "2024" (.bindings none none none none) w).world = w) := by
  intro count p c jobs engine s w
  have fails : ∃ j ∈ jobs, ∃ e, j.Fails [p] e :=
    ⟨_, List.mem_cons_of_mem _ (List.mem_cons_of_mem _ List.mem_cons_self), _, .generator rfl⟩
  have unread : (generate engine s "2024" (.bindings none none none none) w).failure =
      some (.snapshot (.unread "counts.yaml" .notFound)) := rfl
  obtain ⟨_, _, _, e, _, _, _, failed, same⟩ := failure_leaves_world.1 [p] jobs w fails
  exact ⟨⟨fails, ⟨e, failed⟩, same⟩, unread, failure_leaves_world.2 _ _ _ _ _ _ unread id⟩

end TaskSynth.Cli
