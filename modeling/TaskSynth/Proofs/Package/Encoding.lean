import TaskSynth.Marker.Payload
import TaskSynth.Proofs.Outcome
import TaskSynth.Shape.Decode

namespace TaskSynth

open Outcome

/-- The values of a record, without the names of its fields. -/
def Json.Value.positional : Json.Value → Json.Value
  | .object entries => .array (entries.map Prod.snd)
  | v => v

def Json.Value.IsFormOf (form record : Json.Value) : Prop :=
  form = record ∨ form = record.positional

/-- A shape as it may be written: itself, and each of its fields, in either form. -/
def Shape.Written (form : Json.Value) : Shape → Prop
  | struct fields => ∃ vs, List.Forall₂ (fun f v => v.IsFormOf f.encode) fields vs ∧
      form.IsFormOf (.object [("kind", .string "struct"), ("fields", .array vs)])
  | s => form.IsFormOf s.encode

section

variable {fields : List FieldDecl} {form : Json.Value}

theorem Marker.Payload.decode_form {m : Marker.Payload} (written : form.IsFormOf m.encode) :
    m.kind.decode form = .ok m := by
  cases m with
  | task t => rcases written with rfl | rfl <;> rfl
  | param p =>
    obtain ⟨name, default, strict⟩ := p
    rcases written with rfl | rfl <;> cases default <;> rfl
  | result r => rcases written with rfl | rfl <;> rfl
  | workspace w =>
    obtain ⟨name, description, mountPath, readOnly, optional⟩ := w
    rcases written with rfl | rfl <;> cases mountPath <;> rfl

theorem FieldDecl.decode_form {f : FieldDecl} (written : form.IsFormOf f.encode) :
    FieldDecl.decode (.ofJson form) = .ok f := by
  obtain ⟨name, tag⟩ := f
  rcases written with rfl | rfl <;> cases tag <;> rfl

theorem ofItems_eq_map (items : List Json.Value) : Content.ofItems items = items.map .ofJson := by
  induction items with
  | nil => rfl
  | cons v rest ih => rw [Content.ofItems, ih, List.map_cons]

theorem readFieldDecls_forms {vs : List Json.Value}
    (written : List.Forall₂ (fun f v => v.IsFormOf f.encode) fields vs) :
    (Content.ofJson (.array vs)).readFieldDecls = .ok fields := by
  rw [Content.ofJson, ofItems_eq_map, Content.readFieldDecls, mapM_eq_ok_iff]
  rw [List.forall₂_map_left_iff]
  exact (written.imp fun f v own => FieldDecl.decode_form own).flip

theorem Shape.decode_struct (v : Json.Value)
    (written : form.IsFormOf (.object [("kind", .string "struct"), ("fields", v)])) :
    Shape.decode (.ofJson form) = (Content.ofJson v).readFieldDecls.map .struct := by
  rcases written with rfl | rfl
  -- an object keeps the fields until its last key is read, an array checks its length after them
  · change (((Content.ofJson v).readFieldDecls.map some >>= Except.ok) >>= fun fields =>
      Except.ok (Shape.struct (fields.getD []))) = _
    cases (Content.ofJson v).readFieldDecls <;> rfl
  · change ((Content.ofJson v).readFieldDecls >>= fun fields =>
      checkLength 1 1 >>= fun _ => Except.ok (Shape.struct fields)) = _
    cases (Content.ofJson v).readFieldDecls <;> rfl

theorem Shape.decode_form {s : Shape} (written : s.Written form) :
    Shape.decode (.ofJson form) = .ok s := by
  cases s with
  | scalar isAlias => rcases written with rfl | rfl <;> rfl
  | array => rcases written with rfl | rfl <;> rfl
  | map => rcases written with rfl | rfl <;> rfl
  | struct fields =>
    obtain ⟨vs, own, written⟩ := written
    rw [Shape.decode_struct _ written, readFieldDecls_forms own, map_ok]

theorem Shape.written_encode (s : Shape) : s.Written s.encode := by
  cases s with
  | struct fields =>
    refine ⟨fields.map FieldDecl.encode, ?_, Or.inl rfl⟩
    rw [List.forall₂_map_right_iff, List.forall₂_same]
    exact fun f _ => Or.inl rfl
  | _ => exact Or.inl rfl

end

/-- Markers and shapes are read back from what is written for them, with the class and the tags that
they had; and so they are from the other forms of their records. -/
theorem decode_encode :
    (∀ m : Marker.Payload,
      m.kind.decode m.encode = .ok m ∧ m.kind.decode m.encode.positional = .ok m) ∧
    (∀ s : Shape, ∃ t, Shape.decode (.ofJson s.encode) = .ok t ∧ t = s ∧
      t.classify = s.classify ∧ t.fields.map FieldDecl.jsonTag = s.fields.map FieldDecl.jsonTag) ∧
    ∀ (s : Shape) (form : Json.Value), s.Written form → Shape.decode (.ofJson form) = .ok s := by
  refine ⟨fun m => ⟨?_, ?_⟩, fun s => ⟨s, ?_, rfl, rfl, rfl⟩, ?_⟩
  · exact Marker.Payload.decode_form (Or.inl rfl)
  · exact Marker.Payload.decode_form (Or.inr rfl)
  · exact Shape.decode_form s.written_encode
  · intro s form written
    exact Shape.decode_form written

/-- A struct in the form of an array, with one field in each form. -/
theorem decode_encode_mixed :
    let s : Shape := .struct [⟨"Name", some "json:\"name\""⟩, ⟨"Count", none⟩]
    let form : Json.Value := .array [.string "struct", .array
      [.array [.string "Name", .string "json:\"name\""],
       .object [("name", .string "Count"), ("tag", .null)]]]
    s.Written form ∧ Shape.decode (.ofJson form) = .ok s := by
  intro s form
  have written : s.Written form :=
    ⟨_, .cons (Or.inr rfl) (.cons (Or.inl rfl) .nil), Or.inr rfl⟩
  exact ⟨written, decode_encode.2.2 s form written⟩

end TaskSynth
