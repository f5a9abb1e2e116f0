import TaskSynth.Proofs.Package.Interleaving

namespace TaskSynth.Manifest

open Outcome

/-- The params behind no other of their name, with their markers. -/
def keptParams (p : Package) : List (Entity × Marker.Param) :=
  Entity.params (Entity.firstOccurrences p.entities)

def keptResults (p : Package) : List (Entity × Marker.Result) :=
  Entity.results (Entity.firstOccurrences p.entities)

/-- The first of some params that has no schema has this fault. -/
def FirstFailure (params : List (Entity × Marker.Param)) (e : Schema.Error) : Prop :=
  ∃ front x back, params = front ++ x :: back ∧
    (∀ y ∈ front, ∃ s, Schema.inferParam y.1 y.2 = .ok s) ∧ Schema.inferParam x.1 x.2 = .error e

structure Outcomes (p : Package) (t : Marker.Task) (c : Command) : Prop where
  schema : ∀ e, (build p c).value = .error (.schema e) ↔ FirstFailure (keptParams p) e
  command : ∀ e, (build p c).value = .error (.command e) ↔
    (∀ x ∈ keptParams p, ∃ s, Schema.inferParam x.1 x.2 = .ok s) ∧
      c.render p.name p.importPath = .error e
  manifest : ∀ m, (build p c).value = .ok (some m) ↔
    ∃ params text,
      List.Forall₂ (fun x s => Schema.inferParam x.1 x.2 = .ok s) (keptParams p) params ∧
        c.render p.name p.importPath = .ok text ∧
        m = ofParts p t (arguments text)
          ⟨params, (keptResults p).map fun x => Schema.inferResult x.1 x.2⟩
  complete : ∀ m, (build p c).value = .ok (some m) →
    ∀ e ∈ Entity.firstOccurrences p.entities, e.marker.name ∈ m.names e.kind
  params_alone : ∀ e, (build p c).value = .error e ↔
    (build { p with entities := (keptParams p).map (·.1) } c).value = .error e

section

variable {p : Package} {t : Marker.Task} {c : Command}

theorem keptParams_eq (p : Package) :
    keptParams p = Entity.params (Entity.firsts [] p.entities) := by
  rw [keptParams, Entity.firstOccurrences_eq]

theorem keptResults_eq (p : Package) :
    keptResults p = Entity.results (Entity.firsts [] p.entities) := by
  rw [keptResults, Entity.firstOccurrences_eq]

theorem build_of_task (task : p.task = some t) (c : Command) :
    (build p c).value =
      match (keptParams p).mapM paramSchema with
      | .error e => .error (.schema e)
      | .ok params =>
        match c.arguments p.name p.importPath with
        | .error e => .error (.command e)
        | .ok command =>
          .ok (some (ofParts p t command ⟨params, (keptResults p).map resultSchema⟩)) := by
  rw [build_value, foldlM_add, task, keptParams_eq, keptResults_eq]
  cases (Entity.params (Entity.firsts [] p.entities)).mapM paramSchema <;> rfl

theorem build_eq_none_iff : (build p c).value = .ok none ↔ p.task = none := by
  cases task : p.task with
  | none => simp [build_value, task]
  | some t =>
    rw [build_of_task task]
    cases (keptParams p).mapM paramSchema with
    | error e => simp
    | ok params => cases c.arguments p.name p.importPath <;> simp

theorem firstFailure_iff {params : List (Entity × Marker.Param)} {e : Schema.Error} :
    FirstFailure params e ↔ params.mapM paramSchema = .error e :=
  (mapM_eq_error_iff (f := paramSchema)).symm

theorem build_eq_schema_iff (task : p.task = some t) {e : Schema.Error} :
    (build p c).value = .error (.schema e) ↔ FirstFailure (keptParams p) e := by
  rw [firstFailure_iff, build_of_task task]
  cases (keptParams p).mapM paramSchema with
  | error e' => simp
  | ok params => cases c.arguments p.name p.importPath <;> simp

theorem build_eq_command_iff (task : p.task = some t) {e : CommandError} :
    (build p c).value = .error (.command e) ↔
      (∀ x ∈ keptParams p, ∃ s, Schema.inferParam x.1 x.2 = .ok s) ∧
        c.render p.name p.importPath = .error e := by
  have schemas : (∀ x ∈ keptParams p, ∃ s, Schema.inferParam x.1 x.2 = .ok s) ↔
      ∃ ss, (keptParams p).mapM paramSchema = .ok ss :=
    (exists_mapM_eq_ok_iff (f := paramSchema)).symm
  have rendered : c.render p.name p.importPath = .error e ↔
      c.arguments p.name p.importPath = .error e := map_eq_error_iff.symm
  rw [schemas, rendered, build_of_task task]
  cases (keptParams p).mapM paramSchema with
  | error e' => simp
  | ok params => cases c.arguments p.name p.importPath <;> simp

theorem build_eq_manifest_iff (task : p.task = some t) {m : Manifest} :
    (build p c).value = .ok (some m) ↔
      ∃ params text,
        List.Forall₂ (fun x s => Schema.inferParam x.1 x.2 = .ok s) (keptParams p) params ∧
          c.render p.name p.importPath = .ok text ∧
          m = ofParts p t (Manifest.arguments text)
            ⟨params, (keptResults p).map fun x => Schema.inferResult x.1 x.2⟩ := by
  rw [build_eq_some_iff, keptParams_eq, keptResults_eq]
  constructor
  · rintro ⟨t', params, command, task', inferred, rendered, rfl⟩
    cases task.symm.trans task'
    obtain ⟨text, said, rfl⟩ := map_eq_ok_iff.mp rendered
    exact ⟨params, text, inferred, said, rfl⟩
  · rintro ⟨params, text, inferred, rendered, rfl⟩
    exact ⟨t, params, _, task, inferred, map_eq_ok_iff.mpr ⟨text, rendered, rfl⟩, rfl⟩

theorem name_mem_of_build {m : Manifest} (built : (build p c).value = .ok (some m)) {e : Entity}
    (kept : e ∈ Entity.firstOccurrences p.entities) : e.marker.name ∈ m.names e.kind := by
  rw [Entity.firstOccurrences_eq] at kept
  rw [names_of_build built, Entity.mem_names]
  exact ⟨e, kept, rfl, rfl⟩

theorem keptParams_alone (p : Package) :
    keptParams { p with entities := (keptParams p).map (·.1) } = keptParams p := by
  have entities : (keptParams p).map (·.1) = Entity.ofKind .param (Entity.firsts [] p.entities) := by
    rw [keptParams_eq]
    exact Entity.map_fst_marked .param _
  rw [entities, keptParams_eq, keptParams_eq, ← Entity.ofKind_firsts, Entity.firsts_firsts]
  exact Entity.marked_ofKind .param _

theorem build_eq_error_alone_iff (task : p.task = some t) (e : Error) :
    (build p c).value = .error e ↔
      (build { p with entities := (keptParams p).map (·.1) } c).value = .error e := by
  have alone : ({ p with entities := (keptParams p).map (·.1) } : Package).task = some t := task
  rw [build_of_task task, build_of_task alone, keptParams_alone]
  cases (keptParams p).mapM paramSchema with
  | error e' => exact Iff.rfl
  | ok params => cases c.arguments p.name p.importPath <;> simp

end

/-- Building gives no manifest exactly if the package is no task. For a task it fails with the first
param that is kept and has no schema, else with the command, and else gives the manifest of the
params and results that are kept. A param has no schema by a fault of its properties, or of its
default if there is none of them. -/
theorem build_outcomes (p : Package) (c : Command) :
    ((build p c).value = .ok none ↔ p.task = none) ∧
    (∀ t, p.task = some t → Outcomes p t c) ∧
    ∀ e k err, Schema.inferParam e k = .error err ↔ Schema.ParamFault e k err := by
  refine ⟨build_eq_none_iff, fun t task => ?_, fun e k err => Schema.inferParam_eq_error_iff⟩
  exact ⟨fun e => build_eq_schema_iff task, fun e => build_eq_command_iff task,
    fun m => build_eq_manifest_iff task, fun m built e kept => name_mem_of_build built kept,
    build_eq_error_alone_iff task⟩

/-- A strict struct without tags whose default is no JSON either, before a param with another
fault. Without the two there is a manifest, although a param is repeated with a fault. -/
theorem build_outcomes_invalid :
    let param (name : String) (shape : Shape) (default : Option String) : Entity :=
      ⟨"Type", "", shape, .param ⟨name, default, true⟩⟩
    let message := param "msg" (.scalar true) (some "none")
    let fields := param "all" (.struct [⟨"A", none⟩]) (some "none")
    let last := param "last" .array (some "none")
    let result : Entity := ⟨"Size", "", .map, .result ⟨"all"⟩⟩
    let again := param "msg" .array (some "none")
    let p : Package := ⟨"main", "acme/main", "", [], some ⟨"greet", "0.1"⟩, [],
      [message, again, result, fields, last]⟩
    let q : Package := { p with entities := [message, again, result] }
    let c : Command := ⟨fun _ _ => .ok "run"⟩
    (build p c).value = .error (.schema (.missingJsonTag "all" "A")) ∧
      ∃ m, (build q c).value = .ok (some m) ∧ "msg" ∈ m.names .param ∧ "all" ∈ m.names .result := by
  intro param message fields last result again p q c
  obtain ⟨_, failing, faults⟩ := build_outcomes p c
  obtain ⟨_, working, _⟩ := build_outcomes q c
  constructor
  · have first : Schema.ParamFault fields ⟨"all", some "none", true⟩
        (.missingJsonTag "all" "A") := .properties rfl rfl rfl
    refine ((failing _ rfl).schema _).mpr ⟨[(message, _)], (fields, _), [(last, _)], rfl, ?_,
      (faults _ _ _).mpr first⟩
    exact List.forall_mem_singleton.mpr ⟨_, rfl⟩
  · have built := ((working _ rfl).manifest _).mpr
      ⟨_, _, .cons rfl .nil, rfl, rfl⟩
    exact ⟨_, built, (working _ rfl).complete _ built message (by decide),
      (working _ rfl).complete _ built result (by decide)⟩

end TaskSynth.Manifest
