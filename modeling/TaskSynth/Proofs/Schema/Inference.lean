import TaskSynth.Proofs.Schema.Properties

namespace TaskSynth.Schema

open Outcome

theorem inferParam_eq_ok_iff {e : Entity} {k : Marker.Param} {s : Param} :
    inferParam e k = .ok s ↔
      ∃ properties default,
        inferProperties k.name e.shape.fields (paramType e.shape.classify k.strict) =
          .ok properties ∧
        inferDefault k.name (paramType e.shape.classify k.strict) k.default = .ok default ∧
        s = ⟨k.name, paramType e.shape.classify k.strict, e.doc, properties, default⟩ := by
  simp only [inferParam, bind_eq_ok_iff, Except.ok.injEq]
  constructor
  · rintro ⟨properties, hp, default, hd, rfl⟩
    exact ⟨properties, default, hp, hd, rfl⟩
  · rintro ⟨properties, default, hp, hd, rfl⟩
    exact ⟨properties, hp, default, hd, rfl⟩

/-- What is wrong with a param. A fault of a strict struct comes before one of the default. -/
inductive ParamFault (e : Entity) (k : Marker.Param) : Error → Prop where
  | properties {fields : List FieldDecl} {err : Error} (shape : e.shape = .struct fields)
      (strict : k.strict = true) (failed : strictProperties k.name fields = .error err) :
      ParamFault e k err
  | default {raw : String} {err : Error}
      (sound : ∀ fields err, e.shape = .struct fields → k.strict = true →
        strictProperties k.name fields ≠ .error err)
      (given : k.default = some raw)
      (failed : parseDefault k.name raw (paramType e.shape.classify k.strict) = .error err) :
      ParamFault e k err

/-- A default of the form that a type asks for. -/
inductive DefaultOf (raw : String) : TypeTag → Json.Value → Prop where
  | string : DefaultOf raw .string (.string raw)
  | array (items : List Json.Value) : DefaultOf raw .array (.array items)
  | object (entries : List (String × Json.Value)) : DefaultOf raw .object (.object entries)

/-- What the schema of a param has from the entity and the marker that it is made of. -/
structure Param.Fits (s : Param) (e : Entity) (k : Marker.Param) : Prop where
  name : s.name = k.name
  object_iff : s.type = .object ↔ (∃ fields, e.shape = .struct fields) ∧ k.strict = true
  properties_iff : s.properties.isSome ↔ s.type = .object
  keys : ∀ ps, s.properties = some ps → (ps.map (·.1)).Nodup ∧
    ∀ x ∈ ps, x.1 ≠ "" ∧ x.2 = .object [("type", .string "string")]
  default_iff : s.default.isSome ↔ k.default.isSome
  default : ∀ raw v, k.default = some raw → s.default = some v → DefaultOf raw s.type v

section

variable {param raw : String} {type : TypeTag} {fields : List FieldDecl}

theorem paramType_eq_object_iff (shape : Shape) (strict : Bool) :
    paramType shape.classify strict = .object ↔
      (∃ fields, shape = .struct fields) ∧ strict = true := by
  cases shape with
  | scalar isAlias => cases isAlias <;> simp [Shape.classify, paramType]
  | array => simp [Shape.classify, paramType]
  | map => simp [Shape.classify, paramType]
  | struct fields => simp [Shape.classify, paramType]

theorem resultType_ne_object (c : Shape.Class) : resultType c ≠ .object := by
  cases c <;> decide

theorem strictProperties_keys {ps : List (String × Json.Value)}
    (found : strictProperties param fields = .ok ps) :
    (ps.map (·.1)).Nodup ∧ ∀ x ∈ ps, x.1 ≠ "" ∧ x.2 = propertySchema := by
  obtain ⟨fit, rfl⟩ := strictProperties_eq_ok_iff.mp found
  constructor
  · simpa [Function.comp_def] using fit.distinct
  · intro x member
    obtain ⟨n, there, rfl⟩ := List.mem_map.mp member
    exact ⟨fit.named n there, rfl⟩

theorem inferProperties_isSome {properties : Option (List (String × Json.Value))}
    (found : inferProperties param fields type = .ok properties) :
    properties.isSome ↔ type = .object := by
  cases type with
  | object =>
    obtain ⟨ps, _, rfl⟩ := map_eq_ok_iff.mp found
    simp
  | string => cases found; simp
  | array => cases found; simp

theorem inferProperties_keys {ps : List (String × Json.Value)}
    (found : inferProperties param fields type = .ok (some ps)) :
    (ps.map (·.1)).Nodup ∧ ∀ x ∈ ps, x.1 ≠ "" ∧ x.2 = propertySchema := by
  cases type with
  | object =>
    obtain ⟨qs, strict, same⟩ := map_eq_ok_iff.mp found
    cases same
    exact strictProperties_keys strict
  | string => cases found
  | array => cases found

theorem defaultOf_of_parse {v : Json.Value} (parsed : parseDefault param raw type = .ok v) :
    DefaultOf raw type v := by
  cases type with
  | string =>
    cases parsed
    exact .string
  | array =>
    simp only [parseDefault] at parsed
    split at parsed
    · cases parsed
      exact .array _
    · cases parsed
  | object =>
    simp only [parseDefault] at parsed
    split at parsed
    · cases parsed
      exact .object _
    · cases parsed

theorem inferDefault_eq_ok {given : Option String} {default : Option Json.Value}
    (found : inferDefault param type given = .ok default) :
    (default.isSome ↔ given.isSome) ∧
      ∀ raw v, given = some raw → default = some v → DefaultOf raw type v := by
  cases given with
  | none =>
    cases found
    simp
  | some text =>
    obtain ⟨v, parsed, rfl⟩ := map_eq_ok_iff.mp found
    refine ⟨by simp, ?_⟩
    intro raw v' same same'
    cases same
    cases same'
    exact defaultOf_of_parse parsed

theorem inferProperties_eq_error_iff {e : Entity} {k : Marker.Param} {err : Error} :
    inferProperties k.name e.shape.fields (paramType e.shape.classify k.strict) = .error err ↔
      ∃ fields, e.shape = .struct fields ∧ k.strict = true ∧
        strictProperties k.name fields = .error err := by
  by_cases object : paramType e.shape.classify k.strict = .object
  · obtain ⟨⟨fields, shape⟩, strict⟩ := (paramType_eq_object_iff _ _).mp object
    rw [object, inferProperties, map_eq_error_iff, shape, Shape.fields]
    constructor
    · exact fun failed => ⟨fields, rfl, strict, failed⟩
    · rintro ⟨_, same, _, failed⟩
      cases same
      exact failed
  · constructor
    · intro failed
      cases type : paramType e.shape.classify k.strict with
      | object => exact absurd type object
      | string => rw [type] at failed; cases failed
      | array => rw [type] at failed; cases failed
    · rintro ⟨fields, shape, strict, _⟩
      exact absurd ((paramType_eq_object_iff _ _).mpr ⟨⟨fields, shape⟩, strict⟩) object

theorem inferDefault_eq_error_iff {given : Option String} {err : Error} :
    inferDefault param type given = .error err ↔
      ∃ raw, given = some raw ∧ parseDefault param raw type = .error err := by
  cases given with
  | none => simp [inferDefault]
  | some text => simp [inferDefault, map_eq_error_iff]

theorem inferParam_eq_error_iff {e : Entity} {k : Marker.Param} {err : Error} :
    inferParam e k = .error err ↔ ParamFault e k err := by
  simp only [inferParam, bind_eq_error_iff, inferProperties_eq_error_iff,
    inferDefault_eq_error_iff]
  constructor
  · rintro (⟨fields, shape, strict, failed⟩ | ⟨ps, done, ⟨raw, given, failed⟩ | ⟨_, _, none⟩⟩)
    · exact .properties shape strict failed
    · refine .default (fun fields err shape strict refused => ?_) given failed
      rw [inferProperties_eq_error_iff.mpr ⟨fields, shape, strict, refused⟩] at done
      cases done
    · cases none
  · rintro (⟨shape, strict, failed⟩ | ⟨sound, given, failed⟩)
    · exact .inl ⟨_, shape, strict, failed⟩
    · obtain ⟨ps, done⟩ := exists_eq_ok_iff.mpr fun err refused => by
        obtain ⟨fields, shape, strict, failed⟩ := inferProperties_eq_error_iff.mp refused
        exact sound fields err shape strict failed
      exact .inr ⟨ps, done, .inl ⟨_, given, failed⟩⟩

theorem fits_of_inferParam {e : Entity} {k : Marker.Param} {s : Param}
    (inferred : inferParam e k = .ok s) : s.Fits e k := by
  obtain ⟨properties, default, hp, hd, rfl⟩ := inferParam_eq_ok_iff.mp inferred
  obtain ⟨given, form⟩ := inferDefault_eq_ok hd
  refine ⟨rfl, paramType_eq_object_iff e.shape k.strict, inferProperties_isSome hp, ?_, given, form⟩
  rintro ps rfl
  exact inferProperties_keys hp

end

end TaskSynth.Schema
