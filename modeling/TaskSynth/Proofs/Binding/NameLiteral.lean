import TaskSynth.Proofs.Binding.Literal
import TaskSynth.Proofs.Package.Agreement

namespace TaskSynth.Binding

/-- The Go text before the value that the naming method of an entity returns. -/
def nameOpening (e : Entity) : String :=
  match e.kind with
  | .param => "func (param *" ++ e.name ++ ") Name() string \x7b\n\treturn "
  | .result => "func (result *" ++ e.name ++ ") Name() string \x7b\n\treturn "

structure Returns (p : Package) (header : LicenseHeader) (e : Entity) (literal : String) :
    Prop where
  text : (Method.naming e.kind).render (argsOf e) = nameOpening e ++ literal ++ "\n\x7d"
  emitted : (Method.naming e.kind).render (argsOf e) ∈ (Index.ofPackage p).value.sections
  source : (synthesize p header).value = some ((Index.ofPackage p).value.source p.name header)

theorem naming_mem_all (kind : Entity.Kind) : Method.naming kind ∈ Method.all := by
  cases kind <;> decide

theorem apart_literal (receiver type name : String) :
    receiver ++ type ++ ") Name() string \x7b\n\treturn \"" ++ name ++ "\"\n\x7d" =
      (receiver ++ type ++ ") Name() string \x7b\n\treturn ") ++ ("\"" ++ name ++ "\"") ++
        "\n\x7d" := by
  apply String.toList_inj.mp
  simp

theorem render_naming (e : Entity) :
    (Method.naming e.kind).render (argsOf e) =
      nameOpening e ++ ("\"" ++ e.marker.name ++ "\"") ++ "\n\x7d" := by
  unfold nameOpening
  cases e.kind with
  | param => exact apart_literal "func (param *" e.name e.marker.name
  | result => exact apart_literal "func (result *" e.name e.marker.name

theorem toList_literal (name : String) :
    ("\"" ++ name ++ "\"").toList = '"' :: (name.toList ++ ['"']) := by
  simp

theorem returns_of_kept {p : Package} {t : Marker.Task} {e : Entity} (task : p.task = some t)
    (kept : e ∈ Entity.firsts [] p.entities) (header : LicenseHeader) :
    Returns p header e ("\"" ++ e.marker.name ++ "\"") := by
  refine ⟨render_naming e, ?_, ?_⟩
  · rw [Index.sections, List.mem_flatMap]
    refine ⟨_, naming_mem_all e.kind, List.mem_map_of_mem ?_⟩
    rw [Index.get_ofPackage]
    exact List.mem_map_of_mem (List.mem_filter.mpr ⟨kept, renders_naming_iff.mpr rfl⟩)
  · rw [synthesize_value, task, Option.map_some, Index.ofPackage_value]

theorem name_of_kept {p : Package} {e : Entity} (kept : e ∈ Entity.firsts [] p.entities)
    {c : Manifest.Command} {m : Manifest} (built : (Manifest.build p c).value = .ok (some m)) :
    e.marker.name ∈ m.names e.kind := by
  rw [Manifest.names_of_build built, Entity.mem_names]
  exact ⟨e, kept, rfl, rfl⟩

/-- The method of an entity that is kept returns the name that the manifest has for the entity,
exactly if this name has no quote, backslash or line end and nothing that the compiler refuses. -/
theorem returned_name_iff {p : Package} {t : Marker.Task} {e : Entity} (task : p.task = some t)
    (kept : e ∈ Entity.firsts [] p.entities) (header : LicenseHeader) :
    (∀ c m, (Manifest.build p c).value = .ok (some m) → e.marker.name ∈ m.names e.kind) ∧
    ∃ literal, Returns p header e literal ∧
      ∀ refused,
        (∀ bs, Literal.Denotes refused literal.toList bs ↔
          bs = Literal.utf8 e.marker.name.toList) ↔
        ∀ c ∈ e.marker.name.toList, Literal.Plain refused c := by
  refine ⟨fun c m built => name_of_kept kept built, _, returns_of_kept task kept header, ?_⟩
  intro refused
  rw [toList_literal, Literal.denotes_only_self_iff]

theorem returned_name_iff_umlaut :
    let e : Entity := ⟨"Size", "", .array, .result ⟨"größe"⟩⟩
    let p : Package :=
      ⟨"main", "acme/main", ".", [], some ⟨"greet", "0.1"⟩, [],
        [e, ⟨"Other", "", .map, .result ⟨"größe"⟩⟩]⟩
    let c : Manifest.Command := ⟨fun _ _ => .ok "run"⟩
    (∃ m, (Manifest.build p c).value = .ok (some m) ∧ "größe" ∈ m.names .result) ∧
    ∃ literal, Returns p .none e literal ∧
      Literal.Denotes (fun c => c = '\x00' ∨ c = '\uFEFF') literal.toList
        (Literal.utf8 "größe".toList) := by
  intro e p c
  obtain ⟨named, literal, returned, denotes⟩ :=
    returned_name_iff (p := p) (e := e) rfl (by decide) .none
  have built : ∃ m, (Manifest.build p c).value = .ok (some m) := ⟨_, rfl⟩
  obtain ⟨m, built⟩ := built
  have plain : "größe".toList.all fun c =>
      decide (Literal.Plain (fun c => c = '\x00' ∨ c = '\uFEFF') c) := by decide
  have only := (denotes _).mpr fun c member =>
    of_decide_eq_true (List.all_eq_true.mp plain c member)
  exact ⟨⟨m, built, named c m built⟩, literal, returned, (only _).mpr rfl⟩

/-- Two params: what the method of the first returns is no literal, and what that of the second
returns is one for another text, as its name has a backslash before an `n`. -/
theorem returned_name_broken :
    let param (type name : String) : Entity :=
      ⟨type, "", .scalar true, .param ⟨name, none, false⟩⟩
    let p : Package :=
      ⟨"main", "acme/main", ".", [], some ⟨"greet", "0.1"⟩, [],
        [param "Quote" "a\"b", param "Path" "a\\nb"]⟩
    (∃ literal, Returns p .none (param "Quote" "a\"b") literal ∧
      ∀ refused bs, ¬ Literal.Denotes refused literal.toList bs) ∧
    (∃ literal, Returns p .none (param "Path" "a\\nb") literal ∧
      Literal.Denotes (fun _ => False) literal.toList (Literal.utf8 ['a', '\n', 'b']) ∧
      ∀ refused, ¬ Literal.Denotes refused literal.toList (Literal.utf8 "a\\nb".toList)) := by
  intro param p
  refine ⟨⟨_, returns_of_kept (t := ⟨"greet", "0.1"⟩) rfl (by decide) .none, ?_⟩,
    ⟨_, returns_of_kept (t := ⟨"greet", "0.1"⟩) rfl (by decide) .none, ?_, ?_⟩⟩
  · intro refused bs
    rw [toList_literal]
    exact Literal.not_denotes_of_quote (by decide) (by decide) bs
  · rw [toList_literal, Literal.denotes_iff_body]
    have first : Literal.Plain (fun _ => False) 'a' := by decide
    have lineEnd : Literal.Escape ['n'] [10] := .sign (by decide)
    have last : Literal.Body (fun _ => False) ['b'] (Literal.utf8 ['b']) :=
      Literal.body_of_plain (List.forall_mem_singleton.mpr (by decide))
    have chars : "a\\nb".toList = 'a' :: '\\' :: (['n'] ++ ['b']) := by decide
    have octets : Literal.utf8 ['a', '\n', 'b'] =
        String.utf8EncodeChar 'a' ++ ([10] ++ Literal.utf8 ['b']) := by decide
    rw [octets]
    exact chars ▸ .plain first (.escape lineEnd last)
  · intro refused denotes
    rw [toList_literal] at denotes
    exact (Literal.denotes_self_iff.mp denotes '\\' (by decide)).backslash rfl

end TaskSynth.Binding
