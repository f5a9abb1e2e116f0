import TaskSynth.Proofs.FileTree.Sequence
import TaskSynth.Proofs.Output.Step

/-! A run as one sequence of deliveries. Jobs and their artifacts are two loops, one in the other,
but each delivery starts from what the one before it left, and the first that is refused is the
last; so only the order counts in which artifacts follow each other. -/
namespace TaskSynth.Output

open FileTree Outcome

/-- The files that a rule makes of artifacts: where they go, and what they hold. -/
def Rule.files (rule : Rule) (artifacts : List Artifact) : List (String × String) :=
  artifacts.filterMap fun a =>
    match rule.destination a with
    | .ok (some path) => some (path, a.content)
    | _ => none

def filed (steps : List (Rule × Artifact)) : List (String × String) :=
  steps.flatMap fun s => s.1.files [s.2]

inductive Delivered : World → List (Rule × Artifact) → World → Prop where
  | nil (w : World) : Delivered w [] w
  | cons {u v w : World} {rule : Rule} {a : Artifact} {path : Option String}
      {rest : List (Rule × Artifact)} :
      rule.deliver a u = (v, .ok path) → Delivered v rest w → Delivered u ((rule, a) :: rest) w

/-- One artifact is refused after all before it have been delivered. -/
def Stops (u : World) (steps : List (Rule × Artifact)) (w : World) (e : Error) : Prop :=
  ∃ front rule a back v, steps = front ++ (rule, a) :: back ∧ Delivered u front v ∧
    rule.deliver a v = (w, .error e)

def Run.Rendered.deliveries (r : Rendered) : List (Rule × Artifact) :=
  r.artifacts.map fun a => (r.rule, a)

def Run.deliveries (rs : List Rendered) : List (Rule × Artifact) :=
  rs.flatMap Rendered.deliveries

section

variable {u v w : World} {front back steps : List (Rule × Artifact)} {e : Error}

theorem Rule.files_cons (rule : Rule) (a : Artifact) (rest : List Artifact) :
    rule.files (a :: rest) = rule.files [a] ++ rule.files rest :=
  List.filterMap_append (l := [a])

theorem filed_append (front back : List (Rule × Artifact)) :
    filed (front ++ back) = filed front ++ filed back :=
  List.flatMap_append

theorem Rule.filed_map (rule : Rule) (artifacts : List Artifact) :
    filed (artifacts.map fun a => (rule, a)) = rule.files artifacts := by
  induction artifacts with
  | nil => rfl
  | cons a rest ih =>
    rw [files_cons, ← ih]
    rfl

theorem Rule.writes_of_deliver {rule : Rule} {a : Artifact} {w w' : World} {path : Option String}
    (done : rule.deliver a w = (w', .ok path)) :
    Writes w.files (rule.files [a]) w'.files ∧ path.toList = (rule.files [a]).map (·.1) := by
  rcases deliver_cases done with ⟨rfl, rfl, same, -⟩ | ⟨file, goes, rfl, -, written⟩
  · rw [same]
    exact ⟨.nil w.files, rfl⟩
  · simp only [files, List.filterMap_cons, goes, List.filterMap_nil]
    exact ⟨.cons written (.nil _), rfl⟩

theorem Delivered.append (first : Delivered u front v) (second : Delivered v back w) :
    Delivered u (front ++ back) w := by
  induction first with
  | nil => exact second
  | cons own _ ih => exact .cons own (ih second)

theorem Delivered.writes (delivered : Delivered u steps w) :
    Writes u.files (filed steps) w.files := by
  induction delivered with
  | nil w => exact .nil w.files
  | cons own _ ih => exact (Rule.writes_of_deliver own).1.append ih

theorem Stops.after (first : Delivered u front v) (stops : Stops v back w e) :
    Stops u (front ++ back) w e := by
  obtain ⟨more, rule, a, rest, v', rfl, delivered, refused⟩ := stops
  exact ⟨front ++ more, rule, a, rest, v', by rw [List.append_assoc], first.append delivered,
    refused⟩

theorem Stops.before (stops : Stops u front w e) (back : List (Rule × Artifact)) :
    Stops u (front ++ back) w e := by
  obtain ⟨more, rule, a, rest, v, rfl, delivered, refused⟩ := stops
  exact ⟨more, rule, a, rest ++ back, v, by rw [List.append_assoc, List.cons_append], delivered,
    refused⟩

/-- The artifacts of a job are all delivered, and their paths are the answer, or one is refused. -/
theorem Rule.write_cases (rule : Rule) (artifacts : List Artifact) (w : World) :
    ((rule.write w artifacts).2.value = .ok ((rule.files artifacts).map (·.1)) ∧
      Delivered w (artifacts.map fun a => (rule, a)) (rule.write w artifacts).1) ∨
    ∃ e, (rule.write w artifacts).2.value = .error e ∧
      Stops w (artifacts.map fun a => (rule, a)) (rule.write w artifacts).1 e := by
  induction artifacts generalizing w with
  | nil => exact Or.inl ⟨rfl, .nil w⟩
  | cons a rest ih =>
    rw [List.map_cons]
    cases delivered : rule.deliver a w with
    | mk w' outcome =>
      cases outcome with
      | error e =>
        obtain ⟨world, value⟩ := write_cons_of_error delivered rest
        rw [world, value]
        exact Or.inr ⟨e, rfl, [], rule, a, _, w, rfl, .nil w, delivered⟩
      | ok path =>
        obtain ⟨world, value⟩ := write_cons_of_ok delivered rest
        have first : Delivered w [(rule, a)] w' := .cons delivered (.nil w')
        rw [world, value]
        rcases ih w' with ⟨done, later⟩ | ⟨e, failed, stops⟩
        · rw [done, files_cons, List.map_append, ← (writes_of_deliver delivered).2]
          exact Or.inl ⟨rfl, first.append later⟩
        · rw [failed]
          exact Or.inr ⟨e, rfl, stops.after first⟩

namespace Run

variable {rs : List Rendered}

theorem printed_eq_countP (r : Rendered) : r.printed = r.deliveries.countP (·.1 = .stdout) := by
  unfold Rendered.printed Rendered.deliveries
  split <;> simp_all [List.countP_map, Function.comp_def]

theorem filed_deliveries (rs : List Rendered) :
    filed (deliveries rs) = rs.flatMap fun r => r.rule.files r.artifacts := by
  rw [filed, deliveries, List.flatMap_assoc]
  exact List.flatMap_congr fun r _ => r.rule.filed_map r.artifacts

theorem places_of_deliveries (placed : ∀ r ∈ rs, r.rule.Places r.artifacts)
    {s : Rule × Artifact} (member : s ∈ deliveries rs) :
    ∃ place, s.1.destination s.2 = .ok place := by
  obtain ⟨r, job, own⟩ := List.mem_flatMap.mp member
  obtain ⟨a, artifact, rfl⟩ := List.mem_map.mp own
  exact placed r job a artifact

/-- All artifacts of a run are delivered, and the answer lists and counts them, or one is refused. -/
theorem writeAll_cases (rs : List Rendered) (w : World) :
    ((writeAll w rs).2.value = .ok ⟨(filed (deliveries rs)).map (·.1),
        (deliveries rs).countP (·.1 = .stdout)⟩ ∧
      Delivered w (deliveries rs) (writeAll w rs).1) ∨
    ∃ e, (writeAll w rs).2.value = .error (.output e) ∧
      Stops w (deliveries rs) (writeAll w rs).1 e := by
  induction rs generalizing w with
  | nil => exact Or.inl ⟨rfl, .nil w⟩
  | cons r rest ih =>
    have split : deliveries (r :: rest) = r.deliveries ++ deliveries rest := rfl
    rw [split]
    rcases r.rule.write_cases r.artifacts w with ⟨own, first⟩ | ⟨e, own, stops⟩
    · obtain ⟨world, value⟩ := writeAll_cons_of_ok own rest
      rw [world, value]
      rcases ih (r.rule.write w r.artifacts).1 with ⟨done, later⟩ | ⟨e, failed, stops⟩
      · refine Or.inl ⟨?_, first.append later⟩
        rw [done, filed_append, List.map_append, List.countP_append, ← printed_eq_countP,
          ← r.rule.filed_map r.artifacts]
        rfl
      · rw [failed]
        exact Or.inr ⟨e, rfl, stops.after first⟩
    · obtain ⟨world, value⟩ := writeAll_cons_of_error own rest
      rw [world, value]
      exact Or.inr ⟨e, rfl, stops.before _⟩

end Run

end

end TaskSynth.Output
