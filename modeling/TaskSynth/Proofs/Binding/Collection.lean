import TaskSynth.Binding.Synthesis
import TaskSynth.Proofs.Keyed
import TaskSynth.Proofs.Package.Kept

namespace TaskSynth.Binding

/-- What the methods of an entity are rendered from. -/
def argsOf (e : Entity) : Args := ⟨e.marker.name, e.name⟩

def renders (m : Method) (e : Entity) : Bool :=
  (Method.ofEntity e.kind e.shape.classify.codec).contains m

def Method.naming : Entity.Kind → Method
  | .param => .paramName
  | .result => .resultName

def Method.converting : Entity.Kind → Codec → Method
  | .param, .raw => .paramUnmarshalRaw
  | .param, .json => .paramUnmarshalJson
  | .result, .raw => .resultMarshalRaw
  | .result, .json => .resultMarshalJson

section

variable {e : Entity} {kind : Entity.Kind}

theorem renders_naming_iff : renders (.naming kind) e ↔ e.kind = kind := by
  unfold renders
  cases e.kind <;> cases e.shape.classify.codec <;> cases kind <;> decide

theorem renders_converting_iff (kind : Entity.Kind) (c : Codec) (e : Entity) :
    renders (.converting kind c) e ↔ e.kind = kind ∧ e.shape.classify.codec = c := by
  unfold renders
  cases e.kind <;> cases e.shape.classify.codec <;> cases kind <;> cases c <;> decide

theorem filter_renders_naming (kind : Entity.Kind) (es : List Entity) :
    es.filter (renders (.naming kind)) = Entity.ofKind kind es := by
  refine List.filter_congr fun e _ => ?_
  rw [Bool.eq_iff_iff, renders_naming_iff, decide_eq_true_eq]

theorem args_naming (kind : Entity.Kind) (es : List Entity) :
    (es.filter (renders (.naming kind))).map argsOf =
      (Entity.marked kind es).map fun x => ⟨(kind.wrap x.2).name, x.1.name⟩ := by
  rw [filter_renders_naming, ← Entity.map_fst_marked, List.map_map]
  refine List.map_congr_left fun x member => ?_
  rw [← (Entity.mem_marked.mp member).2]
  rfl

end

namespace Index

theorem collect_value (context : Log.Context) (seen : List (Entity.Kind × String)) (i : Index)
    (es : List Entity) :
    (collect context seen i es).value = (Entity.firsts seen es).foldl add i := by
  induction es generalizing seen i with
  | nil => rfl
  | cons e rest ih =>
    by_cases repeated : e.key ∈ seen
    · simp only [collect, if_pos repeated, Logged.value_bind, ih, Entity.firsts]
    · simp only [collect, if_neg repeated, Logged.value_bind, ih, Entity.firsts, List.foldl_cons]

theorem ofPackage_value (p : Package) :
    (ofPackage p).value = (Entity.firsts [] p.entities).foldl add empty :=
  collect_value _ _ _ _

@[simp]
theorem get_empty (m : Method) : empty.get m = [] := rfl

theorem get_eq_of_mem {i : Index} {m : Method} {own : List Args} (member : (m, own) ∈ i.groups) :
    i.get m = own := by
  rw [get, (Keyed.lookup_eq_some_iff_mem i.distinct).mpr member, Option.getD_some]

theorem mem_groups_of_get_ne_nil {i : Index} {m : Method} (some : i.get m ≠ []) :
    (m, i.get m) ∈ i.groups := by
  unfold get at some ⊢
  cases found : i.groups.lookup m with
  | none => simp [found] at some
  | some own => exact Keyed.mem_of_lookup found

theorem getD_lookup_pushTo (m n : Method) (a : Args) (groups : List (Method × List Args)) :
    ((pushTo m a groups).lookup n).getD [] =
      (groups.lookup n).getD [] ++ if n = m then [a] else [] := by
  induction groups with
  | nil => by_cases same : n = m <;> simp [pushTo, Keyed.lookup_cons, same]
  | cons x rest ih =>
    obtain ⟨k, own⟩ := x
    by_cases here : k = m
    · subst here
      rw [pushTo, if_pos rfl, Keyed.lookup_cons, Keyed.lookup_cons]
      by_cases same : n = k <;> simp [same]
    · rw [pushTo, if_neg here, Keyed.lookup_cons, Keyed.lookup_cons]
      by_cases same : n = k
      · subst same
        simp [here]
      · rw [if_neg same, if_neg same, ih]

theorem get_push (i : Index) (m n : Method) (a : Args) :
    (i.push m a).get n = i.get n ++ if n = m then [a] else [] :=
  getD_lookup_pushTo m n a i.groups

theorem isEmpty_iff (i : Index) : i.isEmpty ↔ ∀ m, i.get m = [] := by
  rw [isEmpty, List.all_eq_true]
  constructor
  · intro none m
    by_contra some
    exact some (List.isEmpty_iff.mp (none _ (mem_groups_of_get_ne_nil some)))
  · intro none x member
    rw [← get_eq_of_mem member, none]
    rfl

theorem usesJson_iff (i : Index) : i.usesJson ↔ ∃ m, m.usesJson ∧ i.get m ≠ [] := by
  rw [usesJson, List.any_eq_true]
  constructor
  · rintro ⟨x, member, uses⟩
    simp only [Bool.and_eq_true, Bool.not_eq_true', List.isEmpty_eq_false_iff] at uses
    exact ⟨x.1, uses.1, by rw [get_eq_of_mem member]; exact uses.2⟩
  · rintro ⟨m, json, some⟩
    exact ⟨_, mem_groups_of_get_ne_nil some, by simp [json, some]⟩

theorem get_add (i : Index) (e : Entity) (m : Method) :
    (i.add e).get m = i.get m ++ if renders m e then [argsOf e] else [] := by
  unfold add renders argsOf
  cases e.kind <;> cases e.shape.classify.codec <;> cases m <;>
    simp [Method.ofEntity, get_push]

theorem get_foldl_add (es : List Entity) (i : Index) (m : Method) :
    (es.foldl add i).get m = i.get m ++ (es.filter (renders m)).map argsOf := by
  induction es generalizing i with
  | nil => simp
  | cons e rest ih =>
    rw [List.foldl_cons, ih, get_add]
    by_cases own : renders m e <;> simp [own]

theorem get_ofPackage (p : Package) (m : Method) :
    (ofPackage p).value.get m = ((Entity.firsts [] p.entities).filter (renders m)).map argsOf := by
  rw [ofPackage_value, get_foldl_add, get_empty, List.nil_append]

end Index

theorem Index.get_naming (kind : Entity.Kind) (p : Package) :
    (ofPackage p).value.get (.naming kind) =
      (Entity.marked kind (Entity.firsts [] p.entities)).map
        fun x => ⟨(kind.wrap x.2).name, x.1.name⟩ := by
  rw [get_ofPackage, args_naming]

theorem synthesize_value (p : Package) (header : LicenseHeader) :
    (synthesize p header).value =
      p.task.map fun _ =>
        ((Entity.firsts [] p.entities).foldl Index.add .empty).source p.name header := by
  unfold synthesize
  cases p.task with
  | none => rfl
  | some t =>
    simp only [Logged.value_bind, Logged.value_pure, Index.ofPackage_value, Option.map_some]

end TaskSynth.Binding
