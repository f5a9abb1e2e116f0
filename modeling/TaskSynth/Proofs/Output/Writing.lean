import TaskSynth.Proofs.Output.Sequence

namespace TaskSynth.Output

def Error.IsWrite : Error → Prop
  | notWritten _ _ => True
  | notPrinted _ => True
  | noPackageDir _ => False

def Run.Error.IsWrite : Run.Error → Prop
  | manifest _ => False
  | output e => e.IsWrite

theorem Job.Fails.not_isWrite {packages : List Package} {j : Job} {e : Run.Error}
    (fails : j.Fails packages e) : ¬ e.IsWrite := by
  cases fails with
  | generator _ => exact id
  | @place front back a cause _ _ goes =>
    unfold Rule.destination at goes
    split at goes
    · cases goes
    · cases goes
    · split at goes
      · cases goes
      · cases goes
        exact id

theorem Rule.isWrite_of_deliver {rule : Rule} {a : Artifact} {w w' : World} {e : Error}
    (placed : ∃ place, rule.destination a = .ok place)
    (failed : rule.deliver a w = (w', .error e)) : e.IsWrite := by
  rcases deliver_error_cases placed failed with ⟨-, -, cause, rfl, -⟩ | ⟨_, -, -, cause, rfl, -⟩
  · trivial
  · trivial

namespace Run

theorem places_of_renderAll {packages : List Package} {jobs : List Job} {rs : List Rendered}
    (rendered : (renderAll packages jobs).value = .ok rs) :
    ∀ r ∈ rs, r.rule.Places r.artifacts := by
  intro r member
  obtain ⟨j, _, renders⟩ := Outcome.exists_of_mem_right (renderAll_eq_ok_iff.mp rendered) member
  exact renders.places

theorem isWrite_of_writeAll {rs : List Rendered} {w : World} {e : Error}
    (placed : ∀ r ∈ rs, r.rule.Places r.artifacts)
    (failed : (writeAll w rs).2.value = .error e) : e.IsWrite := by
  rcases writeAll_cases rs w with ⟨value, -⟩ | ⟨cause, value, stops⟩
  · cases failed.symm.trans value
  · obtain ⟨front, rule, a, back, v, whole, -, refused⟩ := stops
    obtain rfl := Except.error.inj (failed.symm.trans value)
    have place : ∃ place, rule.destination a = .ok place :=
      places_of_deliveries placed (whole ▸ List.mem_append_right _ List.mem_cons_self)
    exact Rule.isWrite_of_deliver place refused

end Run

theorem run_of_render_error {packages : List Package} {jobs : List Job} {e : Run.Error}
    (failed : (Run.renderAll packages jobs).value = .error e) (w : World) :
    (run packages jobs w).2.value = .error e ∧ (run packages jobs w).1 = w := by
  simp only [run, failed, and_self]

theorem run_world_of_error {packages : List Package} {jobs : List Job} {w : World} {e : Run.Error}
    (failed : (run packages jobs w).2.value = .error e) (other : ¬ e.IsWrite) :
    (run packages jobs w).1 = w := by
  cases rendered : (Run.renderAll packages jobs).value with
  | error e' => exact (run_of_render_error rendered w).2
  | ok rs =>
    simp only [run, rendered] at failed
    exact absurd (Run.isWrite_of_writeAll (Run.places_of_renderAll rendered) failed) other

end TaskSynth.Output
