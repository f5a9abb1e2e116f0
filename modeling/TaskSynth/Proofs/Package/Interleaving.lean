import TaskSynth.Proofs.Package.Agreement

/-! Params and results are namespaces of their own. Which entities of a kind are kept follows from
the entities of this kind alone, and neither the manifest nor the bindings have the kinds mixed. So
it does not matter how params and results are interleaved in a package. -/
namespace TaskSynth

open Binding Outcome

namespace Entity

section

variable {seen : List (Kind × String)} {es rest : List Entity} {e : Entity} {kind : Kind}

theorem ofKind_cons_self (own : e.kind = kind) : ofKind kind (e :: rest) = e :: ofKind kind rest :=
  List.filter_cons_of_pos (decide_eq_true own)

theorem ofKind_cons_of_ne (other : e.kind ≠ kind) : ofKind kind (e :: rest) = ofKind kind rest :=
  List.filter_cons_of_neg fun own => other (of_decide_eq_true own)

theorem firsts_cons_of_forall_ne {key : Kind × String} (absent : ∀ e ∈ es, e.key ≠ key)
    (seen : List (Kind × String)) : firsts (key :: seen) es = firsts seen es := by
  induction es generalizing seen with
  | nil => rfl
  | cons e rest ih =>
    obtain ⟨first, others⟩ := List.forall_mem_cons.mp absent
    have same : e.key ∈ key :: seen ↔ e.key ∈ seen := by simp [first]
    have swapped : firsts (e.key :: key :: seen) rest = firsts (e.key :: seen) rest := by
      rw [← ih others (e.key :: seen)]
      exact firsts_congr (fun k => by simp [or_left_comm]) rest
    simp only [firsts, same, swapped, ih others]

theorem ofKind_firsts (kind : Kind) (seen : List (Kind × String)) (es : List Entity) :
    ofKind kind (firsts seen es) = firsts seen (ofKind kind es) := by
  induction es generalizing seen with
  | nil => rfl
  | cons e rest ih =>
    by_cases own : e.kind = kind
    · rw [ofKind_cons_self own, firsts, firsts]
      by_cases repeated : e.key ∈ seen
      · rw [if_pos repeated, if_pos repeated, ih]
      · rw [if_neg repeated, if_neg repeated, ofKind_cons_self own, ih]
    · have absent : ∀ d ∈ ofKind kind rest, d.key ≠ e.key := by
        intro d member same
        have kinds : d.kind = e.kind := congrArg Prod.fst same
        exact own (kinds ▸ of_decide_eq_true (List.mem_filter.mp member).2)
      rw [ofKind_cons_of_ne own, firsts]
      by_cases repeated : e.key ∈ seen
      · rw [if_pos repeated, ih]
      · rw [if_neg repeated, ofKind_cons_of_ne own, ih, firsts_cons_of_forall_ne absent]

theorem marked_ofKind (kind : Kind) (es : List Entity) :
    marked kind (ofKind kind es) = marked kind es := by
  rw [marked, marked, ofKind, List.filterMap_filter]
  refine List.filterMap_congr fun e _ => ?_
  by_cases own : e.kind = kind
  · rw [if_pos (decide_eq_true own)]
  · rw [if_neg (mt of_decide_eq_true own), payload?_eq_none own]
    rfl

theorem marked_ofKind_of_ne {other : Kind} (apart : other ≠ kind) (es : List Entity) :
    marked kind (ofKind other es) = [] := by
  refine List.filterMap_eq_nil_iff.mpr fun e member => ?_
  have own : e.kind = other := of_decide_eq_true (List.mem_filter.mp member).2
  rw [payload?_eq_none (own ▸ apart), Option.map_none]

end

end Entity

def Package.only (p : Package) (kind : Entity.Kind) : Package :=
  { p with entities := Entity.ofKind kind p.entities }

/-- Packages that differ at most in how their params and results are interleaved. -/
structure Interleaved (p q : Package) : Prop where
  rest : p = { q with entities := p.entities }
  kinds : ∀ kind, Entity.ofKind kind p.entities = Entity.ofKind kind q.entities

/-- The manifest of a package is that of its params alone with the results of its results alone. -/
structure MadeApart (p : Package) (c : Manifest.Command) : Prop where
  manifest : ∀ m, (Manifest.build p c).value = .ok (some m) ↔
    ∃ ps rs, (Manifest.build (p.only .param) c).value = .ok (some ps) ∧
      (Manifest.build (p.only .result) c).value = .ok (some rs) ∧
      m = { ps with
        results := rs.results
        step := { ps.step with env := ps.step.env ++ rs.step.env } }
  error : ∀ e, (Manifest.build p c).value = .error e ↔
    (Manifest.build (p.only .param) c).value = .error e

def Binding.Method.kind : Method → Entity.Kind
  | .paramName | .paramUnmarshalRaw | .paramUnmarshalJson => .param
  | .resultName | .resultMarshalRaw | .resultMarshalJson => .result

section

variable {p q : Package} {c : Manifest.Command}

theorem kept_ofKind (kind : Entity.Kind) (p : Package) :
    Entity.marked kind (Entity.firsts [] (Entity.ofKind kind p.entities)) =
      Entity.marked kind (Entity.firsts [] p.entities) := by
  rw [← Entity.ofKind_firsts, Entity.marked_ofKind]

theorem kept_ofKind_of_ne (kind : Entity.Kind) {other : Entity.Kind} (apart : other ≠ kind)
    (p : Package) :
    Entity.marked kind (Entity.firsts [] (Entity.ofKind other p.entities)) = [] := by
  rw [← Entity.ofKind_firsts, Entity.marked_ofKind_of_ne apart]

theorem build_eq_of_kept (rest : p = { q with entities := p.entities })
    (kept : ∀ kind, Entity.marked kind (Entity.firsts [] p.entities) =
      Entity.marked kind (Entity.firsts [] q.entities)) :
    (Manifest.build p c).value = (Manifest.build q c).value := by
  have params : Entity.params _ = Entity.params _ := kept .param
  have results : Entity.results _ = Entity.results _ := kept .result
  rw [Manifest.build_value, Manifest.build_value, Manifest.foldlM_add, Manifest.foldlM_add, params,
    results, rest]
  rfl

theorem kept_of_interleaved (same : Interleaved p q) (kind : Entity.Kind) :
    Entity.marked kind (Entity.firsts [] p.entities) =
      Entity.marked kind (Entity.firsts [] q.entities) := by
  rw [← kept_ofKind kind p, ← kept_ofKind kind q, same.kinds]

theorem kind_of_renders {m : Method} {e : Entity} (own : renders m e = true) : e.kind = m.kind := by
  unfold renders at own
  cases kind : e.kind <;> cases codec : e.shape.classify.codec <;> cases m <;>
    simp_all [Method.ofEntity, Method.kind]

theorem filter_renders_ofKind (m : Method) (es : List Entity) :
    (Entity.ofKind m.kind es).filter (renders m) = es.filter (renders m) := by
  rw [Entity.ofKind, List.filter_filter]
  refine List.filter_congr fun e _ => ?_
  by_cases own : renders m e = true
  · simp [own, kind_of_renders own]
  · simp [own]

/-- Under a method the index has what it has if there are no entities of the other kind. -/
theorem get_only (p : Package) (m : Method) :
    (Index.ofPackage (p.only m.kind)).value.get m = (Index.ofPackage p).value.get m := by
  rw [Index.get_ofPackage, Index.get_ofPackage, Package.only, ← Entity.ofKind_firsts,
    filter_renders_ofKind]

theorem usesJson_congr {i j : Index} (same : ∀ m, i.get m = j.get m) : i.usesJson = j.usesJson := by
  rw [Bool.eq_iff_iff, Index.usesJson_iff, Index.usesJson_iff]
  simp only [same]

theorem source_congr {i j : Index} (same : ∀ m, i.get m = j.get m) (name : String)
    (header : LicenseHeader) : i.source name header = j.source name header := by
  simp only [Index.source, Index.sections, usesJson_congr same, same]

theorem synthesize_of_interleaved (same : Interleaved p q) (header : LicenseHeader) :
    (synthesize p header).value = (synthesize q header).value := by
  have index (m : Method) :
      (Index.ofPackage p).value.get m = (Index.ofPackage q).value.get m := by
    rw [← get_only p, ← get_only q, Package.only, Package.only, same.kinds, same.rest]
  have task : p.task = q.task := by rw [same.rest]
  have name : p.name = q.name := by rw [same.rest]
  rw [synthesize_value, synthesize_value, ← Index.ofPackage_value, ← Index.ofPackage_value, task,
    name, source_congr index]

theorem madeApart (p : Package) (c : Manifest.Command) : MadeApart p c := by
  have paramsOfResult := kept_ofKind_of_ne .param (nofun : Entity.Kind.result ≠ .param) p
  have resultsOfParam := kept_ofKind_of_ne .result (nofun : Entity.Kind.param ≠ .result) p
  constructor
  · intro m
    simp only [Manifest.build_eq_some_iff, Package.only, kept_ofKind, paramsOfResult,
      resultsOfParam, List.map_nil, List.forall₂_nil_left_iff]
    constructor
    · rintro ⟨t, params, command, task, inferred, rendered, rfl⟩
      refine ⟨_, _, ⟨t, params, command, task, inferred, rendered, rfl⟩,
        ⟨t, [], command, task, rfl, rendered, rfl⟩, ?_⟩
      simp [Manifest.ofParts, Manifest.Step.ofParts]
    · rintro ⟨_, _, ⟨t, params, command, task, inferred, rendered, rfl⟩,
        ⟨t', _, command', task', rfl, rendered', rfl⟩, rfl⟩
      refine ⟨t, params, command, task, inferred, rendered, ?_⟩
      simp [Manifest.ofParts, Manifest.Step.ofParts]
  · intro e
    simp only [Manifest.build_value, Manifest.foldlM_add, Package.only, kept_ofKind,
      resultsOfParam]
    cases p.task with
    | none => simp
    | some t =>
      cases (Entity.params (Entity.firsts [] p.entities)).mapM Manifest.paramSchema with
      | error e' => simp
      | ok params =>
        cases c.arguments p.name p.importPath <;> simp

end

/-- How params and results are interleaved makes no difference to the manifest, to the error there
is in its place, or to the bindings. The manifest has the params that it has without the results,
and the results that it has without the params; and so have the bindings, method by method. -/
theorem interleaving_irrelevant {p q : Package} (same : Interleaved p q) :
    (∀ c, (Manifest.build p c).value = (Manifest.build q c).value) ∧
    (∀ header, (synthesize p header).value = (synthesize q header).value) ∧
    (∀ c, MadeApart p c) ∧
    ∀ m, (Index.ofPackage p).value.get m = (Index.ofPackage (p.only m.kind)).value.get m := by
  refine ⟨fun c => build_eq_of_kept same.rest (kept_of_interleaved same),
    fun header => synthesize_of_interleaved same header, fun c => madeApart p c, fun m => ?_⟩
  exact (get_only p m).symm

/-- A param and a result of one name and repeats of both, in two orders; both are kept. -/
theorem interleaving_irrelevant_shared_name :
    let param (type : String) : Entity := ⟨type, "", .array, .param ⟨"msg", none, false⟩⟩
    let result (type : String) : Entity := ⟨type, "", .scalar true, .result ⟨"msg"⟩⟩
    let package (entities : List Entity) : Package :=
      ⟨"main", "acme/main", "", [], some ⟨"greet", "0.1"⟩, [], entities⟩
    let p := package [param "In", result "Out", param "Again", result "Late"]
    let q := package [result "Out", result "Late", param "In", param "Again"]
    let c : Manifest.Command := ⟨fun _ _ => .ok "run"⟩
    Interleaved p q ∧
    (∃ m, (Manifest.build p c).value = .ok (some m) ∧ (Manifest.build q c).value = .ok (some m) ∧
      m.params.map (·.name) = ["msg"] ∧ m.results.map (·.name) = ["msg"]) ∧
    (synthesize p .none).value = (synthesize q .none).value := by
  intro param result package p q c
  have same : Interleaved p q := ⟨rfl, fun kind => by cases kind <;> decide⟩
  obtain ⟨built, synthesized, -, -⟩ := interleaving_irrelevant same
  have exists_manifest : ∃ m, (Manifest.build p c).value = .ok (some m) ∧
      m.params.map (·.name) = ["msg"] ∧ m.results.map (·.name) = ["msg"] := ⟨_, rfl, rfl, rfl⟩
  obtain ⟨m, own, params, results⟩ := exists_manifest
  exact ⟨same, ⟨m, own, (built c).symm.trans own, params, results⟩, synthesized .none⟩

end TaskSynth
