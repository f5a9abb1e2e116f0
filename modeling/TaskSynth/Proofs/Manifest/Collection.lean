import TaskSynth.Manifest.Assembly
import TaskSynth.Proofs.Outcome
import TaskSynth.Proofs.Package.Kept
import TaskSynth.Proofs.Schema.Inference

namespace TaskSynth.Manifest

open Outcome

def paramSchema (x : Entity × Marker.Param) : Except Schema.Error Schema.Param :=
  Schema.inferParam x.1 x.2

def resultSchema (x : Entity × Marker.Result) : Schema.Result := Schema.inferResult x.1 x.2

/-- The manifest that a task, its arguments and its schemas make. -/
def ofParts (p : Package) (t : Marker.Task) (command : List String) (parts : Parts) : Manifest :=
  ⟨t.name, t.version, describe p.fileDocs, parts.params, parts.results,
    p.workspaces.map declared, .ofParts p command parts⟩

theorem collect_value (context : Log.Context) (seen : List (Entity.Kind × String))
    (parts : Parts) (es : List Entity) :
    (collect context seen parts es).value = (Entity.firsts seen es).foldlM Parts.add parts := by
  induction es generalizing seen parts with
  | nil => rfl
  | cons e rest ih =>
    by_cases repeated : e.key ∈ seen
    · simp only [collect, if_pos repeated, Logged.value_bind, ih, Entity.firsts]
    · simp only [collect, if_neg repeated, Logged.value_bind, Entity.firsts, List.foldlM_cons]
      cases parts.add e with
      | ok parts => exact ih _ parts
      | error err => rfl

theorem foldlM_add (parts : Parts) (es : List Entity) :
    es.foldlM Parts.add parts =
      ((Entity.params es).mapM paramSchema).map fun ps =>
        ⟨parts.params ++ ps, parts.results ++ (Entity.results es).map resultSchema⟩ := by
  induction es generalizing parts with
  | nil => simp [Entity.marked, pure, Except.pure]
  | cons e rest ih =>
    cases marker : e.marker with
    | param k =>
      have split : Entity.params (e :: rest) = (e, k) :: Entity.params rest ∧
          Entity.results (e :: rest) = Entity.results rest := by
        simp [Entity.marked, Entity.Kind.payload?, marker]
      simp only [List.foldlM_cons, Parts.add, marker, split, List.mapM_cons, paramSchema]
      cases Schema.inferParam e k with
      | error err => rfl
      | ok s =>
        simp only [map_ok, bind_ok, ih]
        cases (Entity.params rest).mapM paramSchema <;> simp [pure, Except.pure]
    | result k =>
      have split : Entity.params (e :: rest) = Entity.params rest ∧
          Entity.results (e :: rest) = (e, k) :: Entity.results rest := by
        simp [Entity.marked, Entity.Kind.payload?, marker]
      simp only [List.foldlM_cons, Parts.add, marker, split, bind_ok, ih, List.map_cons,
        resultSchema, List.append_assoc, List.singleton_append]

/-- The manifest as a function of what the package says and of the entities that are kept. -/
theorem build_value (p : Package) (c : Command) :
    (build p c).value =
      match p.task with
      | none => .ok none
      | some t =>
        match (Entity.firsts [] p.entities).foldlM Parts.add .empty with
        | .error e => .error (.schema e)
        | .ok parts =>
          match c.arguments p.name p.importPath with
          | .error e => .error (.command e)
          | .ok command => .ok (some (ofParts p t command parts)) := by
  unfold build
  cases p.task with
  | none => rfl
  | some t =>
    simp only [ofTask, Logged.value_bind, Logged.value_pure, collect_value]
    cases (Entity.firsts [] p.entities).foldlM Parts.add .empty with
    | error e => rfl
    | ok parts =>
      cases c.arguments p.name p.importPath <;> rfl

/-- A package has a manifest if it is a task, its params have schemas and its command can be
rendered; then the manifest is made of these. -/
theorem build_eq_some_iff (p : Package) (c : Command) (m : Manifest) :
    (build p c).value = .ok (some m) ↔
      ∃ t params command, p.task = some t ∧
        List.Forall₂ (fun x s => paramSchema x = .ok s)
          (Entity.params (Entity.firsts [] p.entities)) params ∧
        c.arguments p.name p.importPath = .ok command ∧
        m = ofParts p t command
          ⟨params, (Entity.results (Entity.firsts [] p.entities)).map resultSchema⟩ := by
  simp only [build_value, foldlM_add, ← mapM_eq_ok_iff, Parts.empty, List.nil_append]
  cases p.task with
  | none => simp
  | some t =>
    cases (Entity.params (Entity.firsts [] p.entities)).mapM paramSchema with
    | error e => simp
    | ok params =>
      cases c.arguments p.name p.importPath with
      | error e => simp
      | ok command => simp [eq_comm]

theorem name_of_build {p : Package} {c : Command} {m : Option Manifest}
    (built : (build p c).value = .ok m) : m.map (·.name) = p.task.map (·.name) := by
  rw [build_value] at built
  cases task : p.task with
  | none =>
    simp only [task, Except.ok.injEq] at built
    simp [← built]
  | some t =>
    simp only [task] at built
    split at built
    · cases built
    · split at built
      · cases built
      · cases built
        rfl

theorem paramNames_of_build {p : Package} {c : Command} {m : Manifest}
    (built : (build p c).value = .ok (some m)) :
    m.params.map (·.name) = Entity.names .param (Entity.firsts [] p.entities) := by
  obtain ⟨t, params, command, _, inferred, _, rfl⟩ := (build_eq_some_iff p c m).mp built
  rw [← Entity.names_marked]
  apply (map_eq_map_of_related inferred _).symm
  rintro ⟨e, k⟩ s schema
  obtain ⟨_, _, _, _, rfl⟩ := Schema.inferParam_eq_ok_iff.mp schema
  rfl

theorem resultNames_of_build {p : Package} {c : Command} {m : Manifest}
    (built : (build p c).value = .ok (some m)) :
    m.results.map (·.name) = Entity.names .result (Entity.firsts [] p.entities) := by
  obtain ⟨t, params, command, _, _, _, rfl⟩ := (build_eq_some_iff p c m).mp built
  rw [← Entity.names_marked, ofParts, List.map_map]
  rfl

def names (m : Manifest) : Entity.Kind → List String
  | .param => m.params.map (·.name)
  | .result => m.results.map (·.name)

theorem names_of_build {p : Package} {c : Command} {m : Manifest}
    (built : (build p c).value = .ok (some m)) (kind : Entity.Kind) :
    m.names kind = Entity.names kind (Entity.firsts [] p.entities) := by
  cases kind with
  | param => exact paramNames_of_build built
  | result => exact resultNames_of_build built

theorem env_of_build {p : Package} {c : Command} {m : Manifest}
    (built : (build p c).value = .ok (some m)) :
    m.step.env = m.params.map EnvBinding.ofParam ++ m.results.map EnvBinding.ofResult := by
  obtain ⟨t, params, command, _, _, _, rfl⟩ := (build_eq_some_iff p c m).mp built
  rfl

end TaskSynth.Manifest
