import Mathlib.Data.List.Nodup
import TaskSynth.Package.Basic

namespace TaskSynth.Entity

/-- The entities whose key none before them has, given the keys seen already. -/
def firsts (seen : List (Kind × String)) : List Entity → List Entity
  | [] => []
  | e :: rest => if e.key ∈ seen then firsts seen rest else e :: firsts (e.key :: seen) rest

/-- The entities that stand behind no other of their kind and name, in their order. -/
def firstOccurrences (es : List Entity) : List Entity :=
  (es.zipIdx.filter fun x : Entity × Nat => ∀ d ∈ es.take x.2, d.key ≠ x.1.key).map (·.1)

def first? (es : List Entity) (key : Kind × String) : Option Entity :=
  es.find? fun e => e.key = key

@[reducible]
def Kind.Payload : Kind → Type
  | .param => Marker.Param
  | .result => Marker.Result

def Kind.wrap : (kind : Kind) → kind.Payload → EntityMarker
  | .param, k => .param k
  | .result, k => .result k

def Kind.payload? : (kind : Kind) → EntityMarker → Option kind.Payload
  | .param, .param k => some k
  | .param, .result _ => none
  | .result, .param _ => none
  | .result, .result k => some k

def ofKind (kind : Kind) (es : List Entity) : List Entity := es.filter fun e => e.kind = kind

def marked (kind : Kind) (es : List Entity) : List (Entity × kind.Payload) :=
  es.filterMap fun e => (kind.payload? e.marker).map (e, ·)

abbrev params (es : List Entity) : List (Entity × Marker.Param) := marked .param es

abbrev results (es : List Entity) : List (Entity × Marker.Result) := marked .result es

def names (kind : Kind) (es : List Entity) : List String :=
  (es.filter fun e => e.kind = kind).map fun e => e.marker.name

section

variable {seen seen' : List (Kind × String)} {es front back : List Entity} {e d : Entity}

theorem firsts_congr (same : ∀ k, k ∈ seen ↔ k ∈ seen') (es : List Entity) :
    firsts seen es = firsts seen' es := by
  induction es generalizing seen seen' with
  | nil => rfl
  | cons e rest ih =>
    have tails : firsts (e.key :: seen) rest = firsts (e.key :: seen') rest := by
      apply ih
      intro k
      simp only [List.mem_cons, same k]
    simp only [firsts, same e.key, tails, ih same]

theorem firsts_append (seen : List (Kind × String)) (front back : List Entity) :
    firsts seen (front ++ back) = firsts seen front ++ firsts (front.map key ++ seen) back := by
  induction front generalizing seen with
  | nil => rfl
  | cons e rest ih =>
    -- Either way the same keys are seen where the second part starts, in another order.
    by_cases repeated : e.key ∈ seen
    · have same : ∀ k, k ∈ rest.map key ++ seen ↔ k ∈ (e :: rest).map key ++ seen := by
        intro k
        simp only [List.map_cons, List.cons_append, List.mem_cons, List.mem_append]
        constructor
        · exact Or.inr
        · rintro (rfl | known)
          · exact Or.inr repeated
          · exact known
      simp only [List.cons_append, firsts, if_pos repeated, ih, firsts_congr same back]
    · have same : ∀ k, k ∈ rest.map key ++ e.key :: seen ↔ k ∈ (e :: rest).map key ++ seen := by
        intro k
        simp only [List.map_cons, List.cons_append, List.mem_cons, List.mem_append]
        tauto
      simp only [List.cons_append, firsts, if_neg repeated, ih, firsts_congr same back]

theorem firsts_insert (repeated : d.key ∈ front.map key) (seen : List (Kind × String)) :
    firsts seen (front ++ d :: back) = firsts seen (front ++ back) := by
  have known : d.key ∈ front.map key ++ seen := List.mem_append_left seen repeated
  simp only [firsts_append, firsts, if_pos known]

/-- Keys that are seen once more are found among those of the entities in front. -/
theorem firsts_eq_filter (front back : List Entity) :
    firsts (front.map key) back =
      ((back.zipIdx front.length).filter fun x : Entity × Nat =>
        ∀ d ∈ (front ++ back).take x.2, d.key ≠ x.1.key).map (·.1) := by
  induction back generalizing front with
  | nil => rfl
  | cons e rest ih =>
    have known : e.key ∈ front.map key ↔ ¬ ∀ d ∈ front, d.key ≠ e.key := by
      simp [List.mem_map]
    have later := ih (front ++ [e])
    rw [List.append_assoc, List.singleton_append, List.length_append, List.length_singleton]
      at later
    rw [List.zipIdx_cons, firsts]
    by_cases fresh : ∀ d ∈ front, d.key ≠ e.key
    · have keys : ∀ k, k ∈ e.key :: front.map key ↔ k ∈ (front ++ [e]).map key := by
        simp [or_comm]
      rw [if_neg (fun member => known.mp member fresh), firsts_congr keys, later,
        List.filter_cons_of_pos, List.map_cons]
      simpa using fresh
    · have keys : ∀ k, k ∈ front.map key ↔ k ∈ (front ++ [e]).map key := by
        intro k
        simp only [List.map_append, List.mem_append, List.map_cons, List.map_nil,
          List.mem_singleton, iff_self_or]
        rintro rfl
        exact known.mpr fresh
      rw [if_pos (known.mpr fresh), firsts_congr keys, later, List.filter_cons_of_neg]
      simpa using fresh

theorem firstOccurrences_eq (es : List Entity) : firstOccurrences es = firsts [] es :=
  (firsts_eq_filter [] es).symm

theorem firsts_firsts (seen : List (Kind × String)) (es : List Entity) :
    firsts seen (firsts seen es) = firsts seen es := by
  induction es generalizing seen with
  | nil => rfl
  | cons e rest ih =>
    by_cases repeated : e.key ∈ seen
    · rw [firsts, if_pos repeated, ih]
    · rw [firsts, if_neg repeated, firsts, if_neg repeated, ih]

theorem first?_of_mem_firsts (kept : e ∈ firsts seen es) :
    e.key ∉ seen ∧ first? es e.key = some e := by
  induction es generalizing seen with
  | nil => cases kept
  | cons f rest ih =>
    by_cases repeated : f.key ∈ seen
    · rw [firsts, if_pos repeated] at kept
      obtain ⟨fresh, found⟩ := ih kept
      have other : f.key ≠ e.key := fun same => fresh (same ▸ repeated)
      exact ⟨fresh, by simpa [first?, List.find?_cons, other] using found⟩
    · rw [firsts, if_neg repeated] at kept
      rcases List.mem_cons.mp kept with rfl | later
      · exact ⟨repeated, by simp [first?]⟩
      · obtain ⟨fresh, found⟩ := ih later
        have other : f.key ≠ e.key := fun same => fresh (same ▸ List.mem_cons_self)
        refine ⟨fun known => fresh (List.mem_cons_of_mem _ known), ?_⟩
        simpa [first?, List.find?_cons, other] using found

theorem mem_keys_firsts (seen : List (Kind × String)) (member : e ∈ es) :
    e.key ∈ seen ∨ ∃ f ∈ firsts seen es, f.key = e.key := by
  induction es generalizing seen with
  | nil => cases member
  | cons f rest ih =>
    by_cases repeated : f.key ∈ seen
    · rw [firsts, if_pos repeated]
      rcases List.mem_cons.mp member with rfl | later
      · exact Or.inl repeated
      · exact ih seen later
    · rw [firsts, if_neg repeated]
      rcases List.mem_cons.mp member with rfl | later
      · exact Or.inr ⟨e, List.mem_cons_self, rfl⟩
      · rcases ih (f.key :: seen) later with known | ⟨g, kept, same⟩
        · rcases List.mem_cons.mp known with same | known
          · exact Or.inr ⟨f, List.mem_cons_self, same.symm⟩
          · exact Or.inl known
        · exact Or.inr ⟨g, List.mem_cons_of_mem _ kept, same⟩

theorem exists_mem_firsts (member : e ∈ es) : ∃ f ∈ firsts [] es, f.key = e.key :=
  (mem_keys_firsts [] member).resolve_left List.not_mem_nil

theorem eq_of_mem_firsts (kept : e ∈ firsts seen es) (kept' : d ∈ firsts seen es)
    (same : e.key = d.key) : e = d := by
  have found := (first?_of_mem_firsts kept).2
  have found' := (first?_of_mem_firsts kept').2
  rw [same, found'] at found
  exact (Option.some.inj found).symm

theorem mem_of_mem_firsts (kept : e ∈ firsts seen es) : e ∈ es :=
  List.mem_of_find?_eq_some (first?_of_mem_firsts kept).2

theorem payload?_eq_some_iff {kind : Kind} {m : EntityMarker} {k : kind.Payload} :
    kind.payload? m = some k ↔ m = kind.wrap k := by
  cases kind <;> cases m <;> simp [Kind.payload?, Kind.wrap]

theorem payload?_eq_none {kind : Kind} (other : e.kind ≠ kind) : kind.payload? e.marker = none := by
  unfold Entity.kind EntityMarker.kind at other
  cases kind <;> cases marker : e.marker <;> simp_all [Kind.payload?]

theorem exists_payload (e : Entity) : ∃ k, e.kind.payload? e.marker = some k := by
  obtain ⟨_, _, _, marker⟩ := e
  cases marker <;> exact ⟨_, rfl⟩

theorem mem_marked {kind : Kind} {k : kind.Payload} :
    (e, k) ∈ marked kind es ↔ e ∈ es ∧ e.marker = kind.wrap k := by
  rw [← payload?_eq_some_iff, marked, List.mem_filterMap]
  constructor
  · rintro ⟨f, member, found⟩
    obtain ⟨_, own, same⟩ := Option.map_eq_some_iff.mp found
    cases same
    exact ⟨member, own⟩
  · rintro ⟨member, own⟩
    exact ⟨e, member, by rw [own, Option.map_some]⟩

theorem map_fst_marked (kind : Kind) (es : List Entity) :
    (marked kind es).map (·.1) = ofKind kind es := by
  rw [marked, List.map_filterMap, ofKind, ← List.filterMap_eq_filter]
  refine List.filterMap_congr fun e _ => ?_
  by_cases own : e.kind = kind
  · subst own
    obtain ⟨k, found⟩ := exists_payload e
    simp [found]
  · simp [payload?_eq_none own, Option.guard, own]

theorem names_marked (kind : Kind) (es : List Entity) :
    (marked kind es).map (fun x => (kind.wrap x.2).name) = names kind es := by
  rw [names, ← ofKind, ← map_fst_marked, List.map_map]
  refine List.map_congr_left fun x member => ?_
  rw [← (mem_marked.mp member).2]
  rfl

theorem mem_names {kind : Kind} {name : String} :
    name ∈ names kind es ↔ ∃ e ∈ es, e.kind = kind ∧ e.marker.name = name := by
  simp [names, and_assoc]

theorem nodup_firsts (seen : List (Kind × String)) (es : List Entity) :
    (firsts seen es).Nodup := by
  induction es generalizing seen with
  | nil => exact List.nodup_nil
  | cons e rest ih =>
    by_cases repeated : e.key ∈ seen
    · rw [firsts, if_pos repeated]
      exact ih seen
    · rw [firsts, if_neg repeated, List.nodup_cons]
      exact ⟨fun kept => (first?_of_mem_firsts kept).1 List.mem_cons_self, ih _⟩

theorem nodup_names_firsts (kind : Kind) (seen : List (Kind × String)) (es : List Entity) :
    (names kind (firsts seen es)).Nodup := by
  apply List.Nodup.map_on
  · intro e he d hd same
    obtain ⟨kept, own⟩ := List.mem_filter.mp he
    obtain ⟨kept', own'⟩ := List.mem_filter.mp hd
    have kinds : e.kind = d.kind := (of_decide_eq_true own).trans (of_decide_eq_true own').symm
    exact eq_of_mem_firsts kept kept' (Prod.ext kinds same)
  · exact (nodup_firsts seen es).filter _

theorem mem_names_firsts {kind : Kind} {name : String} :
    name ∈ names kind (firsts [] es) ↔ name ∈ names kind es := by
  simp only [mem_names]
  constructor
  · rintro ⟨e, kept, own⟩
    exact ⟨e, mem_of_mem_firsts kept, own⟩
  · rintro ⟨e, member, rfl, rfl⟩
    obtain ⟨f, kept, same⟩ := exists_mem_firsts member
    exact ⟨f, kept, congrArg Prod.fst same, congrArg Prod.snd same⟩

end

end TaskSynth.Entity
