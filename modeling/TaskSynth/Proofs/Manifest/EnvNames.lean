import TaskSynth.Proofs.Manifest.Collection

/-! The names of the variables of a step. A variable is named for the upper case of its param or
result, so two names that differ in case alone share one variable. Params and results never do. -/
namespace TaskSynth.Manifest

theorem paramEnvName_inj {a b : String} :
    paramEnvName a = paramEnvName b ↔ Text.toUpper a = Text.toUpper b := by
  simp only [paramEnvName, String.append_left_inj, String.append_right_inj]

theorem resultEnvName_inj {a b : String} :
    resultEnvName a = resultEnvName b ↔ Text.toUpper a = Text.toUpper b := by
  simp only [resultEnvName, String.append_left_inj, String.append_right_inj]

theorem paramEnvName_ne_resultEnvName (a b : String) : paramEnvName a ≠ resultEnvName b := by
  intro same
  have heads := congrArg (fun s => s.toList.head?) same
  simp [paramEnvName, resultEnvName] at heads

theorem envNames_of_build {p : Package} {c : Command} {m : Manifest}
    (built : (build p c).value = .ok (some m)) :
    m.step.env.map (·.name) =
      (Entity.names .param (Entity.firsts [] p.entities)).map paramEnvName ++
        (Entity.names .result (Entity.firsts [] p.entities)).map resultEnvName := by
  rw [env_of_build built, ← paramNames_of_build built, ← resultNames_of_build built]
  simp only [List.map_append, List.map_map]
  rfl

/-- The variables of one kind are distinct unless two names of it have the same upper case. -/
theorem nodup_names_map_iff {f : String → String}
    (inj : ∀ a b, f a = f b ↔ Text.toUpper a = Text.toUpper b) (kind : Entity.Kind)
    (es : List Entity) :
    ((Entity.names kind (Entity.firsts [] es)).map f).Nodup ↔
      ∀ e ∈ es, ∀ d ∈ es, e.kind = kind → d.kind = kind →
        Text.toUpper e.marker.name = Text.toUpper d.marker.name →
        e.marker.name = d.marker.name := by
  rw [List.nodup_map_iff_inj_on (Entity.nodup_names_firsts kind [] es)]
  simp only [Entity.mem_names_firsts, inj]
  simp only [Entity.mem_names]
  constructor
  · intro distinct e he d hd ke kd same
    exact distinct _ ⟨e, he, ke, rfl⟩ _ ⟨d, hd, kd, rfl⟩ same
  · rintro distinct _ ⟨e, he, ke, rfl⟩ _ ⟨d, hd, kd, rfl⟩ same
    exact distinct e he d hd ke kd same

/-- A name has a variable of its own unless its kind has another name with the same upper case. -/
theorem nodup_envNames_iff {p : Package} {c : Command} {m : Manifest}
    (built : (build p c).value = .ok (some m)) :
    (m.step.env.map (·.name)).Nodup ↔
      ∀ e ∈ p.entities, ∀ d ∈ p.entities, e.kind = d.kind →
        Text.toUpper e.marker.name = Text.toUpper d.marker.name →
        e.marker.name = d.marker.name := by
  have apart : ∀ x ∈ (Entity.names .param (Entity.firsts [] p.entities)).map paramEnvName,
      ∀ y ∈ (Entity.names .result (Entity.firsts [] p.entities)).map resultEnvName, x ≠ y := by
    intro x hx y hy
    obtain ⟨a, _, rfl⟩ := List.mem_map.mp hx
    obtain ⟨b, _, rfl⟩ := List.mem_map.mp hy
    exact paramEnvName_ne_resultEnvName a b
  rw [envNames_of_build built, List.nodup_append, and_iff_left apart,
    nodup_names_map_iff (fun _ _ => paramEnvName_inj),
    nodup_names_map_iff (fun _ _ => resultEnvName_inj)]
  constructor
  · rintro ⟨params, results⟩ e he d hd same upper
    cases kind : e.kind with
    | param => exact params e he d hd kind (same ▸ kind) upper
    | result => exact results e he d hd kind (same ▸ kind) upper
  · intro distinct
    exact ⟨fun e he d hd ke kd => distinct e he d hd (ke.trans kd.symm),
      fun e he d hd ke kd => distinct e he d hd (ke.trans kd.symm)⟩

/-- A param and a result of one name, and a param whose name is repeated. -/
theorem nodup_envNames_distinct :
    let p : Package := ⟨"main", "acme/main", "", [], some ⟨"greet", "0.1"⟩, [],
      [⟨"Message", "", .scalar true, .param ⟨"msg", none, false⟩⟩,
       ⟨"Reply", "", .map, .result ⟨"msg"⟩⟩, ⟨"Other", "", .array, .param ⟨"msg", none, true⟩⟩]⟩
    let c : Command := ⟨fun _ _ => .ok "run"⟩
    ∃ m, (build p c).value = .ok (some m) ∧ (m.step.env.map (·.name)).Nodup := by
  intro p c
  have built : ∃ m, (build p c).value = .ok (some m) := ⟨_, rfl⟩
  obtain ⟨m, built⟩ := built
  exact ⟨m, built, (nodup_envNames_iff built).mpr (by decide)⟩

/-- Two names that differ in case alone: both params are declared, with one variable. -/
theorem envNames_shared :
    let param (name type : String) : Entity :=
      ⟨type, "", .scalar true, .param ⟨name, none, false⟩⟩
    let p : Package := ⟨"main", "acme/main", "", [], some ⟨"greet", "0.1"⟩, [],
      [param "msg" "Message", param "MSG" "Shout"]⟩
    let c : Command := ⟨fun _ _ => .ok "run"⟩
    ∃ m, (build p c).value = .ok (some m) ∧ m.params.map (·.name) = ["msg", "MSG"] ∧
      m.step.env.map (·.name) = ["PARAM_MSG_VALUE", "PARAM_MSG_VALUE"] ∧
      ¬ (m.step.env.map (·.name)).Nodup := by
  intro param p c
  have built : ∃ m, (build p c).value = .ok (some m) := ⟨_, rfl⟩
  obtain ⟨m, built⟩ := built
  have shared : m.step.env.map (·.name) = ["PARAM_MSG_VALUE", "PARAM_MSG_VALUE"] := by
    rw [envNames_of_build built]
    decide
  refine ⟨m, built, paramNames_of_build built, shared, ?_⟩
  rw [shared]
  decide

end TaskSynth.Manifest
