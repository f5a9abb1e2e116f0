import TaskSynth.Marker.Registry
import TaskSynth.Proofs.Outcome

namespace TaskSynth.Marker

open Outcome

/-- The payload of a raw value under a name; one that is refused, or is another tool's, has none. -/
def payload? (target : Target) (e : String × Json.Value) : Option Payload :=
  match decode e.1 target e.2 with
  | .ok payload => payload
  | .error _ => none

/-- Why a raw value under a name is refused, if it is. -/
def refusal? (target : Target) (e : String × Json.Value) : Option Error :=
  match decode e.1 target e.2 with
  | .ok _ => none
  | .error cause => some cause

section

variable {name : String} {target : Target} {value : Json.Value} {payload : Payload}

theorem payload?_eq_some_iff :
    payload? target (name, value) = some payload ↔
      decode name target value = .ok (some payload) := by
  unfold payload?
  cases decode name target value <;> simp

theorem payload?_eq_none_iff :
    payload? target (name, value) = none ↔
      ∀ payload, decode name target value ≠ .ok (some payload) := by
  simp only [Option.eq_none_iff_forall_ne_some, ne_eq, payload?_eq_some_iff]

theorem isKnown_of_lookup {d : Definition} (found : lookup name target = some d) :
    isKnown name = true := by
  have matched := List.find?_some found
  rw [Bool.and_eq_true] at matched
  exact List.any_eq_true.mpr ⟨d, List.mem_of_find?_eq_some found, matched.1⟩

theorem decode_of_not_isKnown (foreign : isKnown name = false) :
    decode name target value = .ok none := by
  unfold decode
  cases found : lookup name target with
  | some d => exact absurd (isKnown_of_lookup found) (Bool.eq_false_iff.mp foreign)
  | none => simp only [foreign, Bool.false_eq_true, if_false]

/-- A value of a known marker has a payload or is refused, and not both; one of an unknown marker
is passed over. -/
theorem settled_cases (name : String) (target : Target) (value : Json.Value) :
    (isKnown name = true ∧ ∃ payload, payload? target (name, value) = some payload ∧
      refusal? target (name, value) = none) ∨
    (isKnown name = true ∧ payload? target (name, value) = none ∧
      ∃ cause, refusal? target (name, value) = some cause) ∨
    isKnown name = false ∧ payload? target (name, value) = none ∧
      refusal? target (name, value) = none := by
  simp only [payload?, refusal?, decode]
  cases found : lookup name target with
  | some d =>
    have known := isKnown_of_lookup found
    cases own : d.kind.decode value with
    | ok payload => exact Or.inl ⟨known, payload, by simp only [own], by simp only [own]⟩
    | error cause =>
      exact Or.inr (Or.inl ⟨known, by simp only [own], .payloadMismatch d.name cause,
        by simp only [own]⟩)
  | none =>
    cases known : isKnown name with
    | true => exact Or.inr (Or.inl ⟨rfl, rfl, _, rfl⟩)
    | false => exact Or.inr (Or.inr ⟨rfl, rfl, rfl⟩)

theorem Kind.kind_of_decode {kind : Kind} (decoded : kind.decode value = .ok payload) :
    payload.kind = kind := by
  obtain ⟨record, _, rfl⟩ := map_eq_ok_iff.mp decoded
  cases kind <;> rfl

theorem definition_of_decode (decoded : decode name target value = .ok (some payload)) :
    ∃ d ∈ definitions, d.name = bareName name ∧ d.target = target ∧ payload.kind = d.kind := by
  unfold decode at decoded
  split at decoded
  · rename_i d found
    have matched := List.find?_some found
    simp only [Bool.and_eq_true, beq_iff_eq] at matched
    refine ⟨d, List.mem_of_find?_eq_some found, matched.1, matched.2, ?_⟩
    split at decoded
    · rename_i own
      cases decoded
      exact Kind.kind_of_decode own
    · cases decoded
  · split at decoded <;> cases decoded

theorem kind_of_package (decoded : decode name .package value = .ok (some payload)) :
    payload.kind = .task ∧ bareName name = taskName ∨
      payload.kind = .workspace ∧ bareName name = workspaceName := by
  obtain ⟨d, member, named, targeted, kind⟩ := definition_of_decode decoded
  rw [kind, ← named]
  simp only [definitions, List.mem_cons, List.not_mem_nil, or_false] at member
  rcases member with rfl | rfl | rfl | rfl
  · exact Or.inl ⟨rfl, rfl⟩
  · cases targeted
  · cases targeted
  · exact Or.inr ⟨rfl, rfl⟩

theorem kind_of_type (decoded : decode name .type value = .ok (some payload)) :
    payload.kind = .param ∧ bareName name = paramName ∨
      payload.kind = .result ∧ bareName name = resultName := by
  obtain ⟨d, member, named, targeted, kind⟩ := definition_of_decode decoded
  rw [kind, ← named]
  simp only [definitions, List.mem_cons, List.not_mem_nil, or_false] at member
  rcases member with rfl | rfl | rfl | rfl
  · cases targeted
  · exact Or.inl ⟨rfl, rfl⟩
  · exact Or.inr ⟨rfl, rfl⟩
  · cases targeted

theorem spelt_bareName (name : String) :
    name = "+" ++ bareName name ∨
      name = bareName name ∧ (bareName name).toList.head? ≠ some '+' := by
  unfold bareName
  split
  · rename_i rest letters
    exact Or.inl (String.toList_inj.mp (by simp [letters]))
  · rename_i unsigned
    refine Or.inr ⟨rfl, fun signed => ?_⟩
    obtain ⟨rest, letters⟩ := List.head?_eq_some_iff.mp signed
    exact unsigned rest letters

theorem eq_or_eq_of_bareName {bare : String} (spelt : bareName name = bare) :
    name = "+" ++ bare ∨ name = bare := by
  subst spelt
  exact (spelt_bareName name).imp_right And.left

end

end TaskSynth.Marker
