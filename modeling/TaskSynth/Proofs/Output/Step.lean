import TaskSynth.Proofs.Output.Rendering

/-! Writing step by step: an artifact under its rule, the artifacts of a job, and then the jobs.
What is left to write sees of a step only the world that it leaves, and a step that fails is the
last one. So what every single delivery keeps, a whole run keeps. -/
namespace TaskSynth.Output

section

variable {rule : Rule} {a : Artifact} {artifacts : List Artifact} {w w' : World} {β : Type}
  {view : World → β}

theorem Rule.eq_stdout_of_destination (goes : rule.destination a = .ok none) : rule = .stdout := by
  cases rule with
  | stdout => rfl
  | directory root => cases goes
  | artifacts =>
    simp only [destination] at goes
    split at goes <;> cases goes

theorem Rule.deliver_cases {path : Option String} (done : rule.deliver a w = (w', .ok path)) :
    (rule = .stdout ∧ path = none ∧ w'.files = w.files ∧
      w.console.print a.content = (w'.console, none)) ∨
    ∃ file, rule.destination a = .ok (some file) ∧ path = some file ∧ w'.console = w.console ∧
      w.files.write file (.text a.content) = (w'.files, none) := by
  unfold deliver at done
  split at done
  · cases done
  · rename_i goes
    split at done
    · rename_i printed
      cases done
      exact Or.inl ⟨eq_stdout_of_destination goes, rfl, rfl, printed⟩
    · cases done
  · rename_i file goes
    split at done
    · rename_i written
      cases done
      exact Or.inr ⟨file, goes, rfl, rfl, written⟩
    · cases done

theorem Rule.deliver_error_cases {e : Error} (placed : ∃ place, rule.destination a = .ok place)
    (failed : rule.deliver a w = (w', .error e)) :
    (rule = .stdout ∧ w'.files = w.files ∧ ∃ cause, e = .notPrinted cause ∧
      w.console.print a.content = (w'.console, some cause)) ∨
    ∃ file, rule.destination a = .ok (some file) ∧ w'.console = w.console ∧
      ∃ cause, e = .notWritten file cause ∧
        w.files.write file (.text a.content) = (w'.files, some cause) := by
  obtain ⟨place, goes⟩ := placed
  cases place with
  | none =>
    simp only [deliver, goes] at failed
    split at failed
    · cases failed
    · rename_i cause refused
      cases failed
      exact Or.inl ⟨eq_stdout_of_destination goes, rfl, cause, rfl, refused⟩
  | some file =>
    simp only [deliver, goes] at failed
    split at failed
    · cases failed
    · rename_i cause refused
      cases failed
      exact Or.inr ⟨file, goes, rfl, cause, rfl, refused⟩

theorem Rule.write_cons_of_ok {path : Option String}
    (delivered : rule.deliver a w = (w', .ok path)) (rest : List Artifact) :
    (rule.write w (a :: rest)).1 = (rule.write w' rest).1 ∧
      (rule.write w (a :: rest)).2.value =
        (rule.write w' rest).2.value.map (path.toList ++ ·) := by
  rw [Rule.write, delivered]
  exact ⟨rfl, rfl⟩

theorem Rule.write_cons_of_error {e : Error} (refused : rule.deliver a w = (w', .error e))
    (rest : List Artifact) :
    (rule.write w (a :: rest)).1 = w' ∧ (rule.write w (a :: rest)).2.value = .error e := by
  rw [Rule.write, refused]
  exact ⟨rfl, rfl⟩

theorem Rule.view_write (keeps : ∀ a w, view (rule.deliver a w).1 = view w)
    (artifacts : List Artifact) (w : World) : view (rule.write w artifacts).1 = view w := by
  induction artifacts generalizing w with
  | nil => rfl
  | cons a rest ih =>
    have first := keeps a w
    cases delivered : rule.deliver a w with
    | mk w' outcome =>
      rw [delivered] at first
      cases outcome with
      | error e => rw [(write_cons_of_error delivered rest).1, first]
      | ok path => rw [(write_cons_of_ok delivered rest).1, ih w', first]

namespace Run

variable {r : Rendered} {rs : List Rendered}

theorem writeAll_cons_of_ok {paths : List String}
    (own : (r.rule.write w r.artifacts).2.value = .ok paths) (rest : List Rendered) :
    (writeAll w (r :: rest)).1 = (writeAll (r.rule.write w r.artifacts).1 rest).1 ∧
      (writeAll w (r :: rest)).2.value =
        (writeAll (r.rule.write w r.artifacts).1 rest).2.value.map fun s =>
          ⟨paths ++ s.written, r.printed + s.printed⟩ := by
  constructor <;> simp only [writeAll, own]

theorem writeAll_cons_of_error {e : Output.Error}
    (own : (r.rule.write w r.artifacts).2.value = .error e) (rest : List Rendered) :
    (writeAll w (r :: rest)).1 = (r.rule.write w r.artifacts).1 ∧
      (writeAll w (r :: rest)).2.value = .error (.output e) := by
  constructor <;> simp only [writeAll, own]

theorem view_writeAll (keeps : ∀ r ∈ rs, ∀ a w, view (r.rule.deliver a w).1 = view w) (w : World) :
    view (writeAll w rs).1 = view w := by
  induction rs generalizing w with
  | nil => rfl
  | cons r rest ih =>
    obtain ⟨first, others⟩ := List.forall_mem_cons.mp keeps
    have own := Rule.view_write first r.artifacts w
    cases outcome : (r.rule.write w r.artifacts).2.value with
    | error e => rw [(writeAll_cons_of_error outcome rest).1, own]
    | ok paths => rw [(writeAll_cons_of_ok outcome rest).1, ih others, own]

end Run

theorem view_run {packages : List Package} {jobs : List Job}
    (keeps : ∀ j ∈ jobs, ∀ a w, view (j.rule.deliver a w).1 = view w) (w : World) :
    view (run packages jobs w).1 = view w := by
  cases rendered : (Run.renderAll packages jobs).value with
  | error e => simp only [run, rendered]
  | ok rs =>
    have rules : ∀ r ∈ rs, ∀ a w, view (r.rule.deliver a w).1 = view w := by
      intro r member
      obtain ⟨j, planned, renders⟩ :=
        Outcome.exists_of_mem_right (Run.renderAll_eq_ok_iff.mp rendered) member
      rw [renders.rule]
      exact keeps j planned
    simp only [run, rendered]
    exact Run.view_writeAll rules w

end

end TaskSynth.Output
