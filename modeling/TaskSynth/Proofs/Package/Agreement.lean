import TaskSynth.Proofs.Binding.Collection
import TaskSynth.Proofs.Manifest.Collection
import TaskSynth.Proofs.Schema.Inference

/-! The manifest and the bindings of a package describe the same entities: the first of each kind
and name. The two are collected apart from each other. What they share is which entities are kept,
and the class of a shape, from which both the type of a schema and the codec of a method follow. -/
namespace TaskSynth

open Binding Outcome

/-- Arguments of methods that come from the first entity of its kind and name. They stand under
the raw conversion for a string alias, and under the one through JSON for any other shape. -/
structure Listed (p : Package) (i : Index) (e : Entity) (a : Args) : Prop where
  first : Entity.first? p.entities (e.kind, e.marker.name) = some e
  args : a = ⟨e.marker.name, e.name⟩
  raw : a ∈ i.get (.converting e.kind .raw) ↔ e.shape = .scalar true
  json : a ∈ i.get (.converting e.kind .json) ↔ e.shape ≠ .scalar true

structure ParamSource (e : Entity) (k : Marker.Param) (s : Schema.Param) : Prop where
  marker : e.marker = .param k
  inferred : Schema.inferParam e k = .ok s
  name : s.name = e.marker.name
  type : s.type = Schema.paramType e.shape.classify k.strict
  description : s.description = e.doc

structure ResultSource (e : Entity) (k : Marker.Result) (s : Schema.Result) : Prop where
  marker : e.marker = .result k
  inferred : s = Schema.inferResult e k
  name : s.name = e.marker.name
  type : s.type = Schema.resultType e.shape.classify
  description : s.description = e.doc

/-- The params of a manifest and those of an index have the same names and, position by position,
the same entity; and so the results. No name of an entity is left out. -/
structure SameEntities (p : Package) (m : Manifest) (i : Index) : Prop where
  paramNames : m.params.map (·.name) = (i.get .paramName).map (·.name)
  resultNames : m.results.map (·.name) = (i.get .resultName).map (·.name)
  params : List.Forall₂ (fun s a => ∃ e k, ParamSource e k s ∧ Listed p i e a)
    m.params (i.get .paramName)
  results : List.Forall₂ (fun s a => ∃ e k, ResultSource e k s ∧ Listed p i e a)
    m.results (i.get .resultName)
  complete : ∀ e ∈ p.entities, e.marker.name ∈ (i.get (.naming e.kind)).map (·.name)

theorem codec_raw_iff (s : Shape) : s.classify.codec = .raw ↔ s = .scalar true := by
  cases s with
  | scalar isAlias => cases isAlias <;> simp [Shape.classify, Shape.Class.codec]
  | array => simp [Shape.classify, Shape.Class.codec]
  | map => simp [Shape.classify, Shape.Class.codec]
  | struct fields => simp [Shape.classify, Shape.Class.codec]

/-- Arguments stand under a conversion exactly if it is that of the entity they come from: no
other entity that is kept has the same name and kind. -/
theorem args_mem_converting_iff {p : Package} {e : Entity} (c : Codec)
    (kept : e ∈ Entity.firsts [] p.entities) :
    argsOf e ∈ (Index.ofPackage p).value.get (.converting e.kind c) ↔
      e.shape.classify.codec = c := by
  rw [Index.get_ofPackage, List.mem_map]
  constructor
  · rintro ⟨f, found, args⟩
    obtain ⟨keptToo, own⟩ := List.mem_filter.mp found
    obtain ⟨kinds, codec⟩ := (renders_converting_iff _ _ _).mp own
    have names : f.marker.name = e.marker.name := congrArg Args.name args
    have one : f = e := Entity.eq_of_mem_firsts keptToo kept (Prod.ext kinds names)
    exact one ▸ codec
  · intro codec
    exact ⟨e, List.mem_filter.mpr ⟨kept, (renders_converting_iff _ _ _).mpr ⟨rfl, codec⟩⟩, rfl⟩

theorem listed_of_kept {p : Package} {e : Entity} (kept : e ∈ Entity.firsts [] p.entities) :
    Listed p (Index.ofPackage p).value e (argsOf e) := by
  have raw := codec_raw_iff e.shape
  refine ⟨(Entity.first?_of_mem_firsts kept).2, rfl, ?_, ?_⟩
  · rw [args_mem_converting_iff .raw kept, raw]
  · rw [args_mem_converting_iff .json kept, Ne, ← raw]
    cases e.shape.classify.codec <;> simp

theorem name_mem_naming {p : Package} {e : Entity} (member : e ∈ p.entities) :
    e.marker.name ∈ ((Index.ofPackage p).value.get (.naming e.kind)).map (·.name) := by
  obtain ⟨f, kept, same⟩ := Entity.exists_mem_firsts member
  have kind : f.kind = e.kind := congrArg Prod.fst same
  have name : f.marker.name = e.marker.name := congrArg Prod.snd same
  rw [Index.get_ofPackage, ← kind, ← name]
  exact List.mem_map_of_mem (List.mem_map_of_mem
    (List.mem_filter.mpr ⟨kept, renders_naming_iff.mpr rfl⟩))

theorem listed_param {p : Package} {e : Entity} {k : Marker.Param} {s : Schema.Param}
    (kept : (e, k) ∈ Entity.params (Entity.firsts [] p.entities))
    (inferred : Manifest.paramSchema (e, k) = .ok s) :
    ParamSource e k s ∧ Listed p (Index.ofPackage p).value e ⟨k.name, e.name⟩ := by
  obtain ⟨member, marker⟩ := Entity.mem_marked.mp kept
  have name : e.marker.name = k.name := congrArg EntityMarker.name marker
  constructor
  · obtain ⟨_, _, _, _, rfl⟩ := Schema.inferParam_eq_ok_iff.mp inferred
    exact ⟨marker, inferred, name.symm, rfl, rfl⟩
  · exact name ▸ listed_of_kept member

theorem listed_result {p : Package} {e : Entity} {k : Marker.Result}
    (kept : (e, k) ∈ Entity.results (Entity.firsts [] p.entities)) :
    ResultSource e k (Manifest.resultSchema (e, k)) ∧
      Listed p (Index.ofPackage p).value e ⟨k.name, e.name⟩ := by
  obtain ⟨member, marker⟩ := Entity.mem_marked.mp kept
  have name : e.marker.name = k.name := congrArg EntityMarker.name marker
  exact ⟨⟨marker, rfl, name.symm, rfl, rfl⟩, name ▸ listed_of_kept member⟩

theorem sameEntities_of_build {p : Package} {c : Manifest.Command} {m : Manifest}
    (built : (Manifest.build p c).value = .ok (some m)) :
    SameEntities p m (Index.ofPackage p).value := by
  obtain ⟨t, ps, command, _, inferred, _, rfl⟩ := (Manifest.build_eq_some_iff p c m).mp built
  have params : List.Forall₂
      (fun s a => ∃ e k, ParamSource e k s ∧ Listed p (Index.ofPackage p).value e a)
      ps ((Index.ofPackage p).value.get .paramName) := by
    have named : (Index.ofPackage p).value.get .paramName = _ := Index.get_naming .param p
    rw [named, List.forall₂_map_right_iff]
    apply List.Forall₂.flip
    refine ((List.forall₂_and_left _ _).mpr ⟨fun x kept => kept, inferred⟩).imp ?_
    rintro ⟨e, k⟩ s ⟨kept, schema⟩
    exact ⟨e, k, listed_param kept schema⟩
  have results : List.Forall₂
      (fun s a => ∃ e k, ResultSource e k s ∧ Listed p (Index.ofPackage p).value e a)
      ((Entity.results (Entity.firsts [] p.entities)).map Manifest.resultSchema)
      ((Index.ofPackage p).value.get .resultName) := by
    have named : (Index.ofPackage p).value.get .resultName = _ := Index.get_naming .result p
    rw [named, List.forall₂_map_right_iff, List.forall₂_map_left_iff]
    exact List.forall₂_same.mpr fun x kept => ⟨x.1, x.2, listed_result kept⟩
  refine ⟨map_eq_map_of_related params ?_, map_eq_map_of_related results ?_, params, results,
    fun e member => name_mem_naming member⟩
  · rintro s a ⟨e, k, source, listed⟩
    rw [source.name, listed.args]
  · rintro s a ⟨e, k, source, listed⟩
    rw [source.name, listed.args]

/-- A manifest has the entities of the index of its package, and an entity whose kind and name
came before changes neither the manifest nor the bindings. -/
theorem manifest_agrees_with_bindings (p : Package) (c : Manifest.Command) :
    (∀ m, (Manifest.build p c).value = .ok (some m) →
      SameEntities p m (Index.ofPackage p).value) ∧
    (∀ front d back, p.entities = front ++ back → d.key ∈ front.map Entity.key →
      (Manifest.build { p with entities := front ++ d :: back } c).value =
        (Manifest.build p c).value ∧
      ∀ header, (synthesize { p with entities := front ++ d :: back } header).value =
        (synthesize p header).value) := by
  refine ⟨fun m built => sameEntities_of_build built, ?_⟩
  intro front d back whole repeated
  have same : Entity.firsts [] (front ++ d :: back) = Entity.firsts [] p.entities := by
    rw [whole]
    exact Entity.firsts_insert repeated []
  constructor
  · simp only [Manifest.build_value, same]
    rfl
  · intro header
    simp only [synthesize_value, same]

/-- A param that is repeated with another shape and a default that is no JSON. -/
theorem manifest_agrees_with_bindings_repeated :
    let param (name type : String) (shape : Shape) (default : Option String) : Entity :=
      ⟨type, "about " ++ type, shape, .param ⟨name, default, true⟩⟩
    let front := [param "msg" "Message" (.scalar true) none, param "all" "All" .array none]
    let back := [⟨"Size", "", .map, .result ⟨"msg"⟩⟩]
    let again := param "msg" "Other" .array (some "none")
    let p : Package :=
      ⟨"main", "acme/main", ".", [], some ⟨"greet", "0.1"⟩, [], front ++ back⟩
    let c : Manifest.Command := ⟨fun _ _ => .ok "run"⟩
    ∃ m, (Manifest.build p c).value = .ok (some m) ∧
      SameEntities p m (Index.ofPackage p).value ∧
      again.key ∈ front.map Entity.key ∧
      (Manifest.build { p with entities := front ++ again :: back } c).value = .ok (some m) := by
  intro param front back again p c
  have built : ∃ m, (Manifest.build p c).value = .ok (some m) := ⟨_, rfl⟩
  have repeated : again.key ∈ front.map Entity.key := by decide
  obtain ⟨m, built⟩ := built
  have agree := manifest_agrees_with_bindings p c
  exact ⟨m, built, agree.1 m built, repeated,
    (agree.2 front again back rfl repeated).1.trans built⟩

end TaskSynth
