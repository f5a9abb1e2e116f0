import TaskSynth.Output.Generator
import TaskSynth.Proofs.Binding.Collection
import TaskSynth.Proofs.Manifest.Collection

namespace TaskSynth.Output

open Outcome

def taskNames (packages : List Package) : List String :=
  packages.filterMap fun p => p.task.map (·.name)

def taskDirs (packages : List Package) : List String :=
  packages.filterMap fun p => p.task.map fun _ => p.dir

/-- Packages with the command as it is when their turn comes. -/
def turns : Manifest.Command → List Package → List (Package × Manifest.Command)
  | _, [] => []
  | c, p :: rest => (p, c) :: turns (c.after p) rest

section

variable {packages : List Package} {c : Manifest.Command}

theorem map_fst_turns (c : Manifest.Command) (packages : List Package) :
    (turns c packages).map Prod.fst = packages := by
  induction packages generalizing c with
  | nil => rfl
  | cons p rest ih => rw [turns, List.map_cons, ih]

theorem buildAll_value (c : Manifest.Command) (packages : List Package) :
    (buildAll c packages).value =
      ((turns c packages).mapM fun x => (Manifest.build x.1 x.2).value).map
        fun ms => ms.filterMap id := by
  induction packages generalizing c with
  | nil => rfl
  | cons p rest ih =>
    simp only [buildAll, turns, Logged.value_bind, List.mapM_cons]
    cases (Manifest.build p c).value with
    | error e => rfl
    | ok m =>
      simp only [Logged.value_bind, Logged.value_pure, ih, bind_ok]
      cases (turns (c.after p) rest).mapM fun x => (Manifest.build x.1 x.2).value with
      | error e => rfl
      | ok ms => cases m <;> rfl

theorem buildAll_eq_ok_iff {ms : List Manifest} :
    (buildAll c packages).value = .ok ms ↔
      ∃ built, List.Forall₂ (fun x m => (Manifest.build x.1 x.2).value = .ok m)
          (turns c packages) built ∧
        built.filterMap id = ms := by
  simp only [buildAll_value, map_eq_ok_iff, mapM_eq_ok_iff]

theorem names_of_buildAll {ms : List Manifest} (built : (buildAll c packages).value = .ok ms) :
    ms.map (·.name) = taskNames packages := by
  obtain ⟨found, related, rfl⟩ := buildAll_eq_ok_iff.mp built
  have names : (turns c packages).map (fun x => x.1.task.map (·.name)) =
      found.map fun m => m.map (·.name) :=
    map_eq_map_of_related related fun x m own => (Manifest.name_of_build own).symm
  have lists := congrArg (List.filterMap id) names
  have tasks : (turns c packages).filterMap (fun x => x.1.task.map (·.name)) =
      taskNames packages := by
    rw [taskNames, ← map_fst_turns c packages, List.filterMap_map, map_fst_turns]
    rfl
  rw [← tasks]
  simpa [List.filterMap_map, List.map_filterMap] using lists.symm

theorem bindAll_value (header : Binding.LicenseHeader) (packages : List Package) :
    (bindAll header packages).value =
      packages.filterMap fun p =>
        (Binding.synthesize p header).value.map (bindingsArtifact p) := by
  induction packages with
  | nil => rfl
  | cons p rest ih =>
    simp only [bindAll, Logged.value_bind, Logged.value_pure, ih, List.filterMap_cons]
    cases (Binding.synthesize p header).value <;> rfl

theorem bindAll_related (header : Binding.LicenseHeader) (packages : List Package) :
    List.Forall₂ (fun a dir => a.packageDir = some dir ∧ a.path = Binding.bindingsFile)
      (bindAll header packages).value (taskDirs packages) := by
  simp only [bindAll_value, taskDirs, Binding.synthesize_value]
  induction packages with
  | nil => exact .nil
  | cons p rest ih =>
    simp only [List.filterMap_cons]
    cases p.task with
    | none => exact ih
    | some t => exact .cons ⟨rfl, rfl⟩ ih

end

end TaskSynth.Output
