import TaskSynth.Proofs.Manifest.Collection

namespace TaskSynth.Manifest

/-- Does the value of a variable end in the mark that spreads an array? -/
def IsSpread (value : String) : Prop := "][*])".toList <:+ value.toList

structure EnvBinding.BindsParam (b : EnvBinding) (s : Schema.Param) : Prop where
  name : b.name = paramEnvName s.name
  value : b.value = "$(params[" ++ Text.quoted s.name ++ "]" ++ spread s.type ++ ")"
  spread_iff : IsSpread b.value ↔ s.type = .array

structure EnvBinding.BindsResult (b : EnvBinding) (r : Schema.Result) : Prop where
  name : b.name = resultEnvName r.name
  value : b.value = "$(results[" ++ Text.quoted r.name ++ "].path)"
  not_spread : ¬ IsSpread b.value

/-- The params are those of the entities that are kept, in their order. -/
structure WellFormed (p : Package) (m : Manifest) : Prop where
  paramNames : (m.params.map (·.name)).Nodup
  resultNames : (m.results.map (·.name)).Nodup
  params : List.Forall₂ (fun x s => Schema.inferParam x.1 x.2 = .ok s ∧ s.Fits x.1 x.2)
    (Entity.params (Entity.firsts [] p.entities)) m.params
  results : ∀ r ∈ m.results, r.type ≠ .object
  env : ∃ ps rs, m.step.env = ps ++ rs ∧
    List.Forall₂ (fun s b => EnvBinding.BindsParam b s) m.params ps ∧
    List.Forall₂ (fun r b => EnvBinding.BindsResult b r) m.results rs

theorem not_isSpread {value : String} {front tail : List Char}
    (ends : value.toList = front ++ tail) (short : tail.length ≤ 5)
    (other : ¬ tail <:+ "][*])".toList) : ¬ IsSpread value := by
  intro marked
  have own : tail <:+ value.toList := ends ▸ List.suffix_append front tail
  exact other (List.suffix_of_suffix_length_le own marked short)

theorem isSpread_ofParam_iff (s : Schema.Param) :
    IsSpread (EnvBinding.ofParam s).value ↔ s.type = .array := by
  by_cases array : s.type = .array
  · have ends : (EnvBinding.ofParam s).value.toList =
        "$(params[".toList ++ (Text.quoted s.name).toList ++ "][*])".toList := by
      simp [EnvBinding.ofParam, spread, array]
    refine iff_of_true ?_ array
    rw [IsSpread, ends]
    exact List.suffix_append _ _
  · -- Without the mark a name ends in its quote.
    have ends : (EnvBinding.ofParam s).value.toList =
        ("$(params[".toList ++ '"' :: s.name.toList.flatMap Text.quotedChar) ++
          ['"', ']', ')'] := by
      simp [EnvBinding.ofParam, spread, array, Text.quoted, Text.quotedChars]
    exact iff_of_false (not_isSpread ends (by decide) (by decide)) array

theorem not_isSpread_ofResult (r : Schema.Result) : ¬ IsSpread (EnvBinding.ofResult r).value := by
  have ends : (EnvBinding.ofResult r).value.toList =
      ("$(results[" ++ Text.quoted r.name ++ "].").toList ++ "path)".toList := by
    simp [EnvBinding.ofResult]
  exact not_isSpread ends (by decide) (by decide)

theorem wellFormed_of_build {p : Package} {c : Command} {m : Manifest}
    (built : (build p c).value = .ok (some m)) : WellFormed p m := by
  have env := env_of_build built
  refine ⟨?_, ?_, ?_, ?_,
    m.params.map EnvBinding.ofParam, m.results.map EnvBinding.ofResult, env, ?_, ?_⟩
  · rw [paramNames_of_build built]
    exact Entity.nodup_names_firsts .param [] p.entities
  · rw [resultNames_of_build built]
    exact Entity.nodup_names_firsts .result [] p.entities
  · obtain ⟨t, params, command, _, inferred, _, rfl⟩ := (build_eq_some_iff p c m).mp built
    exact inferred.imp fun x s schema => ⟨schema, Schema.fits_of_inferParam schema⟩
  · obtain ⟨t, params, command, _, inferred, _, rfl⟩ := (build_eq_some_iff p c m).mp built
    intro r member
    obtain ⟨x, _, rfl⟩ := List.mem_map.mp member
    exact Schema.resultType_ne_object _
  · rw [List.forall₂_map_right_iff]
    exact List.forall₂_same.mpr fun s _ => ⟨rfl, rfl, isSpread_ofParam_iff s⟩
  · rw [List.forall₂_map_right_iff]
    exact List.forall₂_same.mpr fun r _ => ⟨rfl, rfl, not_isSpread_ofResult r⟩

/-- A param of each type with a default, one that is repeated, and a result that is an array. -/
theorem wellFormed_of_build_types :
    let param (name : String) (shape : Shape) (default : String) : Entity :=
      ⟨"T", "", shape, .param ⟨name, some default, true⟩⟩
    let fields : List FieldDecl := [⟨"A", some "json:\"a,omitempty\""⟩, ⟨"B", some "json:\"-\""⟩]
    let p : Package := ⟨"main", "acme/main", "", [], some ⟨"greet", "0.1"⟩, [],
      [param "msg" (.scalar true) "[1]", param "all" .array "[1]",
       param "opts" (.struct fields) "{}", param "msg" .array "none",
       ⟨"Sizes", "", .array, .result ⟨"msg"⟩⟩]⟩
    let c : Command := ⟨fun _ _ => .ok "run"⟩
    ∃ m, (build p c).value = .ok (some m) ∧ WellFormed p m ∧
      m.params.map (·.name) = ["msg", "all", "opts"] ∧
      m.params.map (·.type) = [.string, .array, .object] := by
  intro param fields p c
  have built : ∃ m, (build p c).value = .ok (some m) ∧
      m.params.map (·.name) = ["msg", "all", "opts"] ∧
      m.params.map (·.type) = [.string, .array, .object] := ⟨_, rfl, rfl, rfl⟩
  obtain ⟨m, built, names, types⟩ := built
  exact ⟨m, built, wellFormed_of_build built, names, types⟩

end TaskSynth.Manifest
