import TaskSynth.Output.Run
import TaskSynth.Proofs.Outcome

namespace TaskSynth.Output

open Outcome

def Rule.Places (rule : Rule) (artifacts : List Artifact) : Prop :=
  ∀ a ∈ artifacts, ∃ place, rule.destination a = .ok place

inductive Job.Fails (packages : List Package) (j : Job) : Run.Error → Prop where
  | generator {e : Manifest.Error} :
      (j.generator.generate packages).value = .error e → Fails packages j (.manifest e)
  | place {front back : List Artifact} {a : Artifact} {e : Error} :
      (j.generator.generate packages).value = .ok (front ++ a :: back) →
      j.rule.Places front → j.rule.destination a = .error e → Fails packages j (.output e)

structure Job.Renders (packages : List Package) (j : Job) (r : Run.Rendered) : Prop where
  name : r.name = j.generator.name
  rule : r.rule = j.rule
  artifacts : (j.generator.generate packages).value = .ok r.artifacts
  places : r.rule.Places r.artifacts

namespace Run

theorem check_cons (rule : Rule) (a : Artifact) (rest : List Artifact) :
    check rule (a :: rest) = (rule.destination a >>= fun _ => check rule rest) := by
  change ((rule.destination a).map fun _ => ()) >>= (fun _ => check rule rest) = _
  cases rule.destination a <;> rfl

theorem check_eq_mapM (rule : Rule) (artifacts : List Artifact) :
    check rule artifacts = (artifacts.mapM rule.destination).map fun _ => () := by
  induction artifacts with
  | nil => rfl
  | cons a rest ih =>
    rw [check_cons, ih, List.mapM_cons]
    cases rule.destination a with
    | error e => rfl
    | ok place => cases rest.mapM rule.destination <;> rfl

theorem check_eq_error_iff {rule : Rule} {artifacts : List Artifact} {e : Output.Error} :
    check rule artifacts = .error e ↔
      ∃ front a back, artifacts = front ++ a :: back ∧ rule.Places front ∧
        rule.destination a = .error e := by
  simp only [Rule.Places, ← mapM_eq_error_iff, check_eq_mapM]
  cases artifacts.mapM rule.destination <;> simp

theorem check_eq_ok_iff {rule : Rule} {artifacts : List Artifact} :
    check rule artifacts = .ok () ↔ rule.Places artifacts := by
  induction artifacts with
  | nil => simp [check, Rule.Places, pure, Except.pure]
  | cons a rest ih =>
    simp only [Rule.Places, List.forall_mem_cons] at ih ⊢
    rw [← ih, check_cons]
    cases rule.destination a <;> simp

theorem render_value (packages : List Package) (j : Job) :
    (render packages j).value =
      match (j.generator.generate packages).value with
      | .error e => .error (.manifest e)
      | .ok artifacts =>
        match check j.rule artifacts with
        | .error e => .error (.output e)
        | .ok () => .ok ⟨j.generator.name, j.rule, artifacts⟩ := by
  simp only [render, Logged.value_bind]
  cases (j.generator.generate packages).value with
  | error e => rfl
  | ok artifacts =>
    simp only
    cases check j.rule artifacts <;> rfl

theorem render_eq_ok_iff {packages : List Package} {j : Job} {r : Rendered} :
    (render packages j).value = .ok r ↔ j.Renders packages r := by
  rw [render_value]
  constructor
  · intro rendered
    split at rendered
    · cases rendered
    · rename_i generated
      split at rendered
      · cases rendered
      · rename_i checked
        cases rendered
        exact ⟨rfl, rfl, generated, check_eq_ok_iff.mp checked⟩
  · intro renders
    obtain ⟨name, rule, artifacts⟩ := r
    obtain ⟨rfl, rfl, generated, places⟩ := renders
    simp only [generated, check_eq_ok_iff.mpr places]

theorem render_eq_error_iff {packages : List Package} {j : Job} {e : Error} :
    (render packages j).value = .error e ↔ j.Fails packages e := by
  rw [render_value]
  constructor
  · intro failed
    split at failed
    · rename_i generated
      cases failed
      exact .generator generated
    · rename_i generated
      split at failed
      · rename_i checked
        cases failed
        obtain ⟨front, a, back, rfl, placed, failed⟩ := check_eq_error_iff.mp checked
        exact .place generated placed failed
      · cases failed
  · intro fails
    cases fails with
    | generator generated => simp only [generated]
    | place generated placed failed =>
      simp only [generated, check_eq_error_iff.mpr ⟨_, _, _, rfl, placed, failed⟩]

theorem renderAll_value (packages : List Package) (jobs : List Job) :
    (renderAll packages jobs).value = jobs.mapM fun j => (render packages j).value := by
  induction jobs with
  | nil => rfl
  | cons j rest ih =>
    simp only [renderAll, Logged.value_bind, List.mapM_cons]
    cases (render packages j).value with
    | error e => rfl
    | ok r =>
      simp only [Logged.value_bind, Logged.value_pure, ih, bind_ok]
      cases rest.mapM fun j => (render packages j).value <;> rfl

theorem renderAll_eq_ok_iff {packages : List Package} {jobs : List Job} {rs : List Rendered} :
    (renderAll packages jobs).value = .ok rs ↔
      List.Forall₂ (fun j r => Job.Renders packages j r) jobs rs := by
  simp only [renderAll_value, mapM_eq_ok_iff, render_eq_ok_iff]

theorem renderAll_eq_error_iff {packages : List Package} {jobs : List Job} {e : Error} :
    (renderAll packages jobs).value = .error e ↔
      ∃ front j back, jobs = front ++ j :: back ∧
        (∀ b ∈ front, ∃ r, Job.Renders packages b r) ∧ j.Fails packages e := by
  simp only [renderAll_value, mapM_eq_error_iff, render_eq_ok_iff, render_eq_error_iff]

end Run

theorem Job.Renders.not_fails {packages : List Package} {j : Job} {r : Run.Rendered}
    (renders : j.Renders packages r) (e : Run.Error) : ¬ j.Fails packages e := by
  intro fails
  have rendered := Run.render_eq_ok_iff.mpr renders
  rw [Run.render_eq_error_iff.mpr fails] at rendered
  cases rendered

end TaskSynth.Output
