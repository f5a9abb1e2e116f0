import TaskSynth.Proofs.Binding.Layout

namespace TaskSynth.Binding

inductive Operation where
  | replace (p : Package)
  | push (m : Method) (a : Args)

namespace Operation

def isReplacement : Operation → Bool
  | replace _ => true
  | push _ _ => false

/-- A package records the arguments of each entity that is kept under the two methods of the entity,
and a single push its own. -/
def records : Operation → List (Method × Args)
  | replace p =>
    (Entity.firstOccurrences p.entities).flatMap fun e =>
      (sectionsOf e).map fun s => (s.1, argsOf s.2)
  | push m a => [(m, a)]

/-- The operations from the last replacement on, or all if there is none. -/
def current : List Operation → List Operation
  | [] => []
  | o :: rest => if rest.any isReplacement then current rest else o :: rest

/-- What is recorded since the last replacement, with what that one records in front. -/
def recorded (os : List Operation) : List (Method × Args) := (current os).flatMap records

end Operation

def Index.apply (i : Index) : Operation → Index
  | .replace p => (ofPackage p).value
  | .push m a => i.push m a

def Index.after (os : List Operation) : Index := os.foldl apply empty

/-- The arguments that a record has for a method, in their order. -/
def under (m : Method) (record : List (Method × Args)) : List Args :=
  (record.filter fun x => x.1 = m).map Prod.snd

/-- What an index shows of a record: under each method its own arguments in order, so that all
methods together have the record, and nothing else. -/
structure Index.Shows (i : Index) (record : List (Method × Args)) : Prop where
  get : ∀ m, i.get m = under m record
  whole : (Method.all.flatMap fun m => (i.get m).map (m, ·)).Perm record
  isEmpty : i.isEmpty ↔ ∀ m, i.get m = []
  usesJson : i.usesJson ↔ i.get .paramUnmarshalJson ≠ [] ∨ i.get .resultMarshalJson ≠ []

section

theorem under_append (m : Method) (front back : List (Method × Args)) :
    under m (front ++ back) = under m front ++ under m back := by
  rw [under, List.filter_append, List.map_append, under, under]

theorem under_singleton (m n : Method) (a : Args) :
    under m [(n, a)] = if m = n then [a] else [] := by
  by_cases same : n = m
  · simp [under, same]
  · simp [under, same, Ne.symm same]

theorem sectionsOf_eq (e : Entity) :
    sectionsOf e = (Method.ofEntity e.kind e.shape.classify.codec).map (·, e) := by
  unfold sectionsOf conversionOf
  by_cases raw : e.shape = .scalar true
  · rw [if_pos raw, (codec_raw_iff _).mpr raw]
    cases e.kind <;> rfl
  · rw [if_neg raw, (codec_json_iff _).mpr raw]
    cases e.kind <;> rfl

theorem under_sectionsOf (m : Method) (e : Entity) :
    under m ((sectionsOf e).map fun s => (s.1, argsOf s.2)) =
      if renders m e then [argsOf e] else [] := by
  rw [sectionsOf_eq]
  unfold renders
  cases e.kind <;> cases e.shape.classify.codec <;> cases m <;> rfl

theorem under_entities (m : Method) (es : List Entity) :
    under m (es.flatMap fun e => (sectionsOf e).map fun s => (s.1, argsOf s.2)) =
      (es.filter (renders m)).map argsOf := by
  induction es with
  | nil => rfl
  | cons e rest ih =>
    rw [List.flatMap_cons, under_append, under_sectionsOf, ih]
    by_cases own : renders m e <;> simp [own]

theorem Operation.current_push (os : List Operation) (m : Method) (a : Args) :
    current (os ++ [push m a]) = current os ++ [push m a] := by
  induction os with
  | nil => rfl
  | cons o rest ih =>
    rw [List.cons_append, current, current, ih, List.any_append]
    cases rest.any isReplacement <;> rfl

theorem Operation.current_replace (os : List Operation) (p : Package) :
    current (os ++ [replace p]) = [replace p] := by
  induction os with
  | nil => rfl
  | cons o rest ih =>
    rw [List.cons_append, current, ih, List.any_append]
    simp [isReplacement]

theorem Index.get_after (os : List Operation) (m : Method) :
    (Index.after os).get m = under m (Operation.recorded os) := by
  -- The last operation decides whether those before it count.
  induction os using List.reverseRecOn with
  | nil => rfl
  | append_singleton os o ih =>
    rw [after, List.foldl_append, ← after, List.foldl_cons, List.foldl_nil]
    cases o with
    | replace p =>
      rw [Operation.recorded, Operation.current_replace, List.flatMap_singleton, Operation.records,
        Entity.firstOccurrences_eq, under_entities]
      exact get_ofPackage p m
    | push n a =>
      rw [Operation.recorded, Operation.current_push, List.flatMap_append, ← Operation.recorded,
        under_append, ← ih, List.flatMap_singleton, Operation.records, under_singleton]
      exact get_push (after os) n m a

theorem perm_flatMap_methods (record : List (Method × Args)) :
    (Method.all.flatMap fun m => record.filter fun x => x.1 = m).Perm record := by
  rw [List.perm_iff_count]
  rintro ⟨m, a⟩
  have own (n : Method) : (record.filter fun x => x.1 = n).count (m, a) =
      if m = n then record.count (m, a) else 0 := by
    by_cases same : m = n
    · rw [if_pos same, List.count_filter (by simpa using same)]
    · rw [if_neg same, List.count_eq_zero]
      simp [same]
  have counts : (List.count (m, a) ∘ fun n => record.filter fun x => x.1 = n) =
      fun n => if m = n then record.count (m, a) else 0 := funext own
  rw [List.count_flatMap, counts]
  cases m <;> simp [Method.all]

theorem map_under (m : Method) (record : List (Method × Args)) :
    (under m record).map (m, ·) = record.filter fun x => x.1 = m := by
  rw [under, List.map_map]
  refine (List.map_congr_left fun x member => ?_).trans (List.map_id _)
  have own : x.1 = m := of_decide_eq_true (List.mem_filter.mp member).2
  exact Prod.ext own.symm rfl

theorem Index.shows_of_get {i : Index} {record : List (Method × Args)}
    (get : ∀ m, i.get m = under m record) : i.Shows record where
  get := get
  whole := by
    simp only [get, map_under]
    exact perm_flatMap_methods record
  isEmpty := i.isEmpty_iff
  usesJson := by
    simp only [Index.usesJson_iff, Binding.usesJson_iff, CallsJson, or_and_right, exists_or,
      exists_eq_left]

end

/-- After any operations, an index that was empty shows what was recorded since it was last
replaced: under each method its own arguments, in order. It is empty if no method has any, and uses
JSON if one of the methods that call the JSON package has some. -/
theorem Index.operations_shown (os : List Operation) :
    (Index.after os).Shows (Operation.recorded os) :=
  shows_of_get (get_after os)

end TaskSynth.Binding
